import MissionControl.Json.Record
import MissionControl.Proofs.Checked

/-!
# Records

A record has named fields.  It is written as an object, with each field under its name, or as an
array, with the fields in their places.  No field may be given twice, and members with other names
are passed over.  Records are read member by member into a draft; what was read is told by the
values that the members give under each name.
-/

namespace MissionControl
namespace Json

/-- How the fields of a record are written. -/
inductive Layout where
  /-- In an object, each under its name. -/
  | named
  /-- In an array, each in its place. -/
  | listed
  deriving DecidableEq

/-- The values that stand under a name. -/
def valuesUnder (name : String) (members : List Member) : List Document :=
  members.filterMap fun member => if member.1.toOption = some name then some member.2 else none

def listedMembers (fields : List String) (items : List Document) : List Member :=
  (fields.zip items).map fun entry => (.ok entry.1, entry.2)

/-- The names of members can be read, and what is under no field is passed over. -/
def Legible (fields : List String) (members : List Member) : Prop :=
  ∀ member ∈ members, ∃ name, member.1 = .ok name ∧ (name ∈ fields ∨ member.2.skip = .ok ())

/-- Members give the fields of a record, each once at most. -/
structure Gives (fields : List String) (members : List Member)
    (given : String → Option Document) : Prop where
  legible : Legible fields members
  single : ∀ name ∈ fields, valuesUnder name members = (given name).toList

/-- A document is a record in a layout. -/
inductive Record (fields : List String) :
    Layout → Document → (String → Option Document) → Prop where
  | named {members : List Member} {given : String → Option Document} :
      Gives fields members given → Record fields .named (.object members .closed) given
  | listed {items : List Document} {given : String → Option Document} :
      items.length ≤ fields.length → Gives fields (listedMembers fields items) given →
      Record fields .listed (.array items .closed) given

/-! ## One field -/

section Field

variable {α : Type} {read : Document → Except ReadFault α} {usual x : α}
  {before after : Option α} {values : List Document} {given : Option Document}

/-- A field that was read from values, one after another; the second is one too many. -/
def Takes (read : Document → Except ReadFault α) :
    List Document → Option α → Option α → Prop
  | [], before, after => after = before
  | value :: rest, before, after =>
      before = none ∧ ∃ x, read value = .ok x ∧ Takes read rest (some x) after

def Reads (read : Document → Except ReadFault α) (usual : α) : Option Document → α → Prop
  | none, x => x = usual
  | some value, x => read value = .ok x

theorem reads_of_takes (usual : α) (takes : Takes read values none after) :
    values = values.head?.toList ∧ Reads read usual values.head? (after.getD usual) := by
  match values, takes with
  | [], same =>
      rw [show after = none from same]
      exact ⟨rfl, rfl⟩
  | [value], ⟨_, x, told, same⟩ =>
      rw [show after = some x from same]
      exact ⟨rfl, told⟩
  | _ :: _ :: _, ⟨_, x, _, again, _⟩ =>
      cases again

theorem takes_of_reads (reads : Reads read usual given x) :
    Takes read given.toList none (given.map fun _ => x) ∧
      (given.map fun _ => x).getD usual = x := by
  cases given with
  | none =>
      exact ⟨rfl, reads.symm⟩
  | some value =>
      exact ⟨⟨rfl, x, reads, rfl⟩, rfl⟩

end Field

/-! ## Drafts -/

section Drafts

variable {δ : Type} {fields : List (Field δ)} {before after : δ}

def Field.names (fields : List (Field δ)) : List String := fields.map name

/-- Fields are told by their names, lie apart in a draft, and are all that there is to it. -/
structure Separate (fields : List (Field δ)) : Prop where
  named : ∀ f ∈ fields, ∀ g ∈ fields, f.name = g.name → f = g
  given_put : ∀ f ∈ fields, ∀ x draft, f.given (f.put x draft) = some x
  given_put_of_ne : ∀ f ∈ fields, ∀ g ∈ fields, f.name ≠ g.name →
    ∀ x draft, g.given (f.put x draft) = g.given draft
  ext : ∀ draft other, (∀ f ∈ fields, f.given draft = f.given other) → draft = other

def Took (fields : List (Field δ)) (values : String → List Document) (before after : δ) : Prop :=
  ∀ f ∈ fields, Takes f.read (values f.name) (f.given before) (f.given after)

theorem took_none (separate : Separate fields) :
    Took fields (fun _ => []) before after ↔ after = before := by
  constructor
  · exact separate.ext after before
  · rintro rfl f mem
    rfl

theorem Field.add_of_read {f : Field δ} {value : Document} {x : f.α}
    (fresh : f.given before = none) (told : f.read value = .ok x) :
    f.add value before = .ok (f.put x before) := by
  unfold add
  rw [fresh, told]
  rfl

theorem Field.add_eq_ok_iff {f : Field δ} {value : Document} :
    f.add value before = .ok after ↔
      f.given before = none ∧ ∃ x, f.read value = .ok x ∧ f.put x before = after := by
  constructor
  · intro added
    unfold add at added
    split at added
    · cases added
    · rename_i fresh
      exact ⟨Option.not_isSome_iff_eq_none.mp fresh, exists_of_map_eq_ok added⟩
  · rintro ⟨fresh, x, told, rfl⟩
    exact add_of_read fresh told

theorem find?_name (separate : Separate fields) {f : Field δ} (mem : f ∈ fields) :
    (fields.find? fun g => g.name = f.name) = some f := by
  cases found : fields.find? fun g => g.name = f.name with
  | none =>
      simpa using List.find?_eq_none.mp found f mem
  | some g =>
      have same : g.name = f.name := by simpa using List.find?_some found
      rw [separate.named g (List.mem_of_find?_eq_some found) f mem same]

/-- What a field reads is the first of the values under its name. -/
theorem exists_add_iff (separate : Separate fields) {f : Field δ} (mem : f ∈ fields)
    {value : Document} {values : String → List Document} :
    (∃ mid, f.add value before = .ok mid ∧ Took fields values mid after) ↔
      Took fields (fun name => (if f.name = name then [value] else []) ++ values name)
        before after := by
  constructor
  · rintro ⟨mid, added, took⟩ g there
    rcases Field.add_eq_ok_iff.mp added with ⟨fresh, x, told, rfl⟩
    by_cases same : f.name = g.name
    · rw [← separate.named f mem g there same]
      dsimp only
      rw [if_pos rfl]
      refine ⟨fresh, x, told, ?_⟩
      rw [← separate.given_put f mem x before]
      exact took f mem
    · dsimp only
      rw [if_neg same, List.nil_append, ← separate.given_put_of_ne f mem g there same x before]
      exact took g there
  · intro took
    have own := took f mem
    dsimp only at own
    rw [if_pos rfl] at own
    rcases own with ⟨fresh, x, told, later⟩
    refine ⟨f.put x before, Field.add_of_read fresh told, ?_⟩
    intro g there
    by_cases same : f.name = g.name
    · rw [← separate.named f mem g there same, separate.given_put f mem]
      exact later
    · have rest := took g there
      dsimp only at rest
      rw [if_neg same] at rest
      rw [separate.given_put_of_ne f mem g there same]
      exact rest

theorem exists_addMember_iff (separate : Separate fields) {name : String} {value : Document}
    {values : String → List Document} :
    (∃ mid, addMember fields name value before = .ok mid ∧ Took fields values mid after) ↔
      (name ∈ Field.names fields ∨ value.skip = .ok ()) ∧
        Took fields (fun field => (if name = field then [value] else []) ++ values field)
          before after := by
  unfold addMember
  cases found : fields.find? fun f => f.name = name with
  | some f =>
      have mem := List.mem_of_find?_eq_some found
      have same : f.name = name := by simpa using List.find?_some found
      subst same
      have known : f.name ∈ Field.names fields := List.mem_map_of_mem mem
      rw [and_iff_right (.inl known)]
      exact exists_add_iff separate mem
  | none =>
      have apart : ∀ f ∈ fields, ¬name = f.name := by
        intro f mem same
        simpa [same] using List.find?_eq_none.mp found f mem
      have unknown : name ∉ Field.names fields := by
        intro mem
        rcases List.mem_map.mp mem with ⟨f, there, same⟩
        exact apart f there same.symm
      have passed : Took fields (fun field => (if name = field then [value] else []) ++
          values field) before after ↔ Took fields values before after := by
        refine forall₂_congr fun f mem => ?_
        dsimp only
        rw [if_neg (apart f mem), List.nil_append]
      rw [passed, or_iff_right unknown]
      cases skipped : value.skip with
      | error cause =>
          simp [bind, Except.bind]
      | ok done =>
          simp [bind, Except.bind, pure, Except.pure]

theorem valuesUnder_cons (field name : String) (value : Document) (rest : List Member) :
    valuesUnder field ((.ok name, value) :: rest) =
      (if name = field then [value] else []) ++ valuesUnder field rest := by
  unfold valuesUnder
  rw [List.filterMap_cons]
  by_cases same : name = field
  · simp [same, Except.toOption]
  · simp [same, Except.toOption]

theorem addMembers_cons (draft : δ) (name : String) (value : Document) (rest : List Member) :
    addMembers fields ((.ok name, value) :: rest) draft =
      addMember fields name value draft >>= addMembers fields rest := rfl

theorem addMembers_of_read {f : Field δ} {name : String} {value : Document} {x : f.α}
    (found : (fields.find? fun g => g.name = name) = some f) (fresh : f.given before = none)
    (told : f.read value = .ok x) (rest : List Member) :
    addMembers fields ((.ok name, value) :: rest) before =
      addMembers fields rest (f.put x before) := by
  rw [addMembers_cons, addMember, found]
  dsimp only
  rw [Field.add_of_read fresh told]
  rfl

theorem addMembers_eq_ok_iff (separate : Separate fields) {members : List Member} :
    addMembers fields members before = .ok after ↔
      Legible (Field.names fields) members ∧
        Took fields (fun name => valuesUnder name members) before after := by
  induction members generalizing before with
  | nil =>
      constructor
      · intro told
        cases told
        exact ⟨by simp [Legible], (took_none separate).mpr rfl⟩
      · rintro ⟨_, took⟩
        exact congrArg Except.ok ((took_none separate).mp took).symm
  | cons member rest ih =>
      rcases member with ⟨key, value⟩
      cases key with
      | error fault =>
          constructor
          · intro told
            cases told
          · rintro ⟨legible, _⟩
            rcases legible _ List.mem_cons_self with ⟨name, read, _⟩
            cases read
      | ok name =>
          have split : (fun field => valuesUnder field ((.ok name, value) :: rest)) =
              fun field => (if name = field then [value] else []) ++ valuesUnder field rest :=
            funext fun field => valuesUnder_cons field name value rest
          rw [split, addMembers_cons, bind_eq_ok_iff]
          constructor
          · rintro ⟨mid, added, later⟩
            rcases ih.mp later with ⟨legible, took⟩
            rcases (exists_addMember_iff separate).mp ⟨mid, added, took⟩ with ⟨known, took⟩
            refine ⟨?_, took⟩
            intro member mem
            rcases List.mem_cons.mp mem with same | mem
            · rw [same]
              exact ⟨name, rfl, known⟩
            · exact legible member mem
          · rintro ⟨legible, took⟩
            have known : name ∈ Field.names fields ∨ value.skip = .ok () := by
              rcases legible _ List.mem_cons_self with ⟨_, same, known⟩
              cases same
              exact known
            rcases (exists_addMember_iff separate).mpr ⟨known, took⟩ with ⟨mid, added, took⟩
            have later : Legible (Field.names fields) rest := fun member mem =>
              legible member (List.mem_cons_of_mem _ mem)
            exact ⟨mid, added, ih.mpr ⟨later, took⟩⟩

theorem addItems_eq_ok_iff (separate : Separate fields) {left : List (Field δ)}
    (part : ∀ f ∈ left, f ∈ fields) {items : List Document} :
    addItems left items before = .ok after ↔
      items.length ≤ (Field.names left).length ∧
        addMembers fields (listedMembers (Field.names left) items) before = .ok after := by
  induction left generalizing before items with
  | nil =>
      cases items with
      | nil =>
          simp [addItems, addMembers, listedMembers]
      | cons value rest =>
          simp [addItems, Field.names]
  | cons f left ih =>
      cases items with
      | nil =>
          simp [addItems, addMembers, listedMembers]
      | cons value rest =>
          have listed : listedMembers (Field.names (f :: left)) (value :: rest) =
              (.ok f.name, value) :: listedMembers (Field.names left) rest := rfl
          have member : addMember fields f.name value before = f.add value before := by
            unfold addMember
            rw [find?_name separate (part f List.mem_cons_self)]
          rw [listed, addMembers_cons, member, addItems]
          cases f.add value before with
          | error cause =>
              simp [bind, Except.bind]
          | ok mid =>
              have part' : ∀ g ∈ left, g ∈ fields := fun g mem =>
                part g (List.mem_cons_of_mem _ mem)
              simpa [bind, Except.bind, Field.names] using ih part'

variable {β : Type} {start : δ} {finish : δ → β} {Shows : β → (String → Option Document) → Prop}

/-- What is made of a draft is told by what was given for each field. -/
def Finishes (fields : List (Field δ)) (start : δ) (finish : δ → β)
    (Shows : β → (String → Option Document) → Prop) : Prop :=
  ∀ values b, (∃ after, Took fields values start after ∧ finish after = b) ↔
    ∃ given, (∀ name ∈ Field.names fields, values name = (given name).toList) ∧ Shows b given

theorem exists_addMembers_iff (separate : Separate fields)
    (finishes : Finishes fields start finish Shows) {members : List Member} {b : β} :
    (∃ after, addMembers fields members start = .ok after ∧ finish after = b) ↔
      ∃ given, Gives (Field.names fields) members given ∧ Shows b given := by
  constructor
  · rintro ⟨after, told, same⟩
    rcases (addMembers_eq_ok_iff separate).mp told with ⟨legible, took⟩
    rcases (finishes _ b).mp ⟨after, took, same⟩ with ⟨given, single, shows⟩
    exact ⟨given, ⟨legible, single⟩, shows⟩
  · rintro ⟨given, ⟨legible, single⟩, shows⟩
    rcases (finishes _ b).mpr ⟨given, single, shows⟩ with ⟨after, took, same⟩
    exact ⟨after, (addMembers_eq_ok_iff separate).mpr ⟨legible, took⟩, same⟩

theorem finish_eq_ok_iff {x : Except ReadFault δ} {ending : Ending} {b : β} :
    (do
      let draft ← x
      Document.readEnding ending
      return finish draft) = .ok b ↔
      ending = .closed ∧ ∃ after, x = .ok after ∧ finish after = b := by
  cases x with
  | error cause =>
      simp [bind, Except.bind]
  | ok draft =>
      cases ending <;> simp [bind, Except.bind, pure, Except.pure, Document.readEnding]

/-- A document reads as a record just where it is one in some layout. -/
theorem readRecord_eq_ok_iff (separate : Separate fields)
    (finishes : Finishes fields start finish Shows) (wanted : String) {document : Document}
    {b : β} :
    readRecord fields start finish wanted document = .ok b ↔
      ∃ layout given, Record (Field.names fields) layout document given ∧ Shows b given := by
  have every : ∀ f ∈ fields, f ∈ fields := fun _ mem => mem
  constructor
  · intro told
    cases document with
    | object members ending =>
        rcases finish_eq_ok_iff.mp told with ⟨rfl, finished⟩
        rcases (exists_addMembers_iff separate finishes).mp finished with ⟨given, gives, shows⟩
        exact ⟨.named, given, .named gives, shows⟩
    | array values ending =>
        rcases finish_eq_ok_iff.mp told with ⟨rfl, after, added, same⟩
        rcases (addItems_eq_ok_iff separate every).mp added with ⟨few, added⟩
        rcases (exists_addMembers_iff separate finishes).mp ⟨after, added, same⟩ with
          ⟨given, gives, shows⟩
        exact ⟨.listed, given, .listed few gives, shows⟩
    | _ =>
        cases told
  · rintro ⟨layout, given, record, shows⟩
    cases record with
    | named gives =>
        exact finish_eq_ok_iff.mpr
          ⟨rfl, (exists_addMembers_iff separate finishes).mpr ⟨given, gives, shows⟩⟩
    | listed few gives =>
        rcases (exists_addMembers_iff separate finishes).mpr ⟨given, gives, shows⟩ with
          ⟨after, added, same⟩
        exact finish_eq_ok_iff.mpr
          ⟨rfl, after, (addItems_eq_ok_iff separate every).mpr ⟨few, added⟩, same⟩

end Drafts

/-! ## Objects that were read -/

/-- The members of an object are in the order of their keys, one for each key. -/
def Keyed : Json → Prop
  | .object members => members.Pairwise fun a b => a.1 < b.1
  | _ => True

theorem mem_put {key : String} {value : Json} {entry : String × Json}
    {members : List (String × Json)} (mem : entry ∈ put key value members) :
    entry = (key, value) ∨ entry ∈ members := by
  induction members with
  | nil =>
      simpa [put] using mem
  | cons first rest ih =>
      unfold put at mem
      split at mem
      · simpa using mem
      · split at mem
        · rcases List.mem_cons.mp mem with same | later
          · exact .inl same
          · exact .inr (List.mem_cons_of_mem _ later)
        · rcases List.mem_cons.mp mem with same | later
          · exact .inr (List.mem_cons.mpr (.inl same))
          · rcases ih later with same | later
            · exact .inl same
            · exact .inr (List.mem_cons_of_mem _ later)

theorem pairwise_put (key : String) (value : Json) {members : List (String × Json)}
    (ordered : members.Pairwise fun a b => a.1 < b.1) :
    (put key value members).Pairwise fun a b => a.1 < b.1 := by
  induction members with
  | nil =>
      exact List.pairwise_singleton _ _
  | cons first rest ih =>
      rcases List.pairwise_cons.mp ordered with ⟨least, later⟩
      unfold put
      split
      · rename_i below
        refine List.pairwise_cons.mpr ⟨fun entry mem => ?_, ordered⟩
        rcases List.mem_cons.mp mem with same | mem
        · rw [same]
          exact below
        · exact String.lt_trans below (least entry mem)
      · rename_i notBelow
        split
        · rename_i same
          exact List.pairwise_cons.mpr ⟨fun entry mem => same ▸ least entry mem, later⟩
        · rename_i apart
          refine List.pairwise_cons.mpr ⟨fun entry mem => ?_, ih later⟩
          rcases mem_put mem with same | mem
          · rw [same]
            refine String.not_le.mp fun above => apart ?_
            exact String.le_antisymm above (String.not_lt.mp notBelow)
          · exact least entry mem

theorem keyed_ofMembers (members : List (String × Json)) : (ofMembers members).Keyed := by
  have kept (sorted : List (String × Json)) (ordered : sorted.Pairwise fun a b => a.1 < b.1) :
      (members.foldl (fun sorted member => put member.1 member.2 sorted) sorted).Pairwise
        fun a b => a.1 < b.1 := by
    induction members generalizing sorted with
    | nil =>
        exact ordered
    | cons member rest ih =>
        exact ih _ (pairwise_put member.1 member.2 ordered)
  exact kept [] .nil

theorem keyed_readValue {readEnclosed : String → Except ReadFault Json}
    (enclosed : ∀ {text value}, readEnclosed text = .ok value → value.Keyed) {depth : Nat}
    {document : Document} {value : Json}
    (told : document.readValue readEnclosed depth = .ok value) : value.Keyed := by
  cases document with
  | null =>
      cases told
      trivial
  | bool b =>
      cases told
      trivial
  | number numeral =>
      rw [Document.readValue] at told
      split at told
      · cases told
        trivial
      · cases told
        trivial
      · cases told
  | text content =>
      rcases exists_of_map_eq_ok told with ⟨_, _, rfl⟩
      trivial
  | array items ending =>
      cases depth with
      | zero =>
          cases told
      | succ depth =>
          rw [Document.readValue] at told
          rcases exists_of_bind_eq_ok told with ⟨_, _, told⟩
          rcases exists_of_bind_eq_ok told with ⟨_, _, told⟩
          cases told
          trivial
  | object members ending =>
      cases depth with
      | zero =>
          cases told
      | succ depth =>
          rw [Document.readValue] at told
          split at told
          · rcases exists_of_bind_eq_ok told with ⟨_, _, told⟩
            rcases exists_of_bind_eq_ok told with ⟨_, inside, told⟩
            rcases exists_of_bind_eq_ok told with ⟨_, _, told⟩
            cases told
            exact enclosed inside
          · rcases exists_of_bind_eq_ok told with ⟨_, _, told⟩
            rcases exists_of_bind_eq_ok told with ⟨_, _, told⟩
            cases told
            exact keyed_ofMembers _
  | broken asRead asSkipped =>
      cases told

theorem parse_eq_ok_iff {α : Type} {read : Document → Except ReadFault α} {input : Bytes} {a : α} :
    parse read input = .ok a ↔
      ∃ document, Document.ofTokens (tokens input) = (document, []) ∧ read document = .ok a := by
  unfold parse
  cases shape : Document.ofTokens (tokens input) with
  | mk document rest =>
      constructor
      · intro told
        rcases exists_of_bind_eq_ok told with ⟨_, read, told⟩
        cases rest with
        | nil =>
            cases told
            exact ⟨document, rfl, read⟩
        | cons token rest =>
            cases told
      · rintro ⟨_, same, read⟩
        cases same
        dsimp only
        rw [read]
        rfl

theorem keyed_parseEnclosed {bound : Nat} {text : String} {value : Json}
    (told : parseEnclosed bound text = .ok value) : value.Keyed := by
  induction bound generalizing text value with
  | zero =>
      cases told
  | succ bound ih =>
      rw [parseEnclosed] at told
      cases parsed : parse (Document.readValue (parseEnclosed bound) depthLimit)
          (Text.bytes text) with
      | error cause =>
          rw [parsed] at told
          cases told
      | ok read =>
          rw [parsed] at told
          cases told
          rcases parse_eq_ok_iff.mp parsed with ⟨document, _, inside⟩
          exact keyed_readValue ih inside

theorem lookup_of_mem {members : List (String × Json)}
    (ordered : members.Pairwise fun a b => a.1 < b.1) {name : String} {value : Json}
    (mem : (name, value) ∈ members) : members.lookup name = some value := by
  induction members with
  | nil =>
      cases mem
  | cons first rest ih =>
      rcases List.pairwise_cons.mp ordered with ⟨least, later⟩
      rcases List.mem_cons.mp mem with same | mem
      · simp [← same]
      · have apart : (name == first.1) = false := by
          simpa using (String.ne_of_lt (least _ mem)).symm
        rw [List.lookup_cons, apart]
        exact ih later mem

end Json
end MissionControl
