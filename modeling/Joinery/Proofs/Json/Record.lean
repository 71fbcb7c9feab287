import Mathlib.Data.List.Pairwise
import Mathlib.Data.List.Perm.Basic
import Joinery.Json.Read
import Joinery.Proofs.Json.Written
import Joinery.Proofs.Outcome

/-!
# Records in objects

`Document.ShowsFields` says that an object shows the fields of a record: each of them under one of its
names or, where it holds the usual value, not at all, in any order and among members with other names. A
record whose fields do not get into each other's way (`Record.Fits`) is read from every such object:
`Record.Fits.read_eq`.
-/

namespace Joinery.Json

/-- A member of an object. -/
abbrev Member := Except Fault String × Document

/-! ## Objects that show fields -/

/-- How an object may show a field. -/
structure FieldView where
  names : List String
  /-- The documents that show its value. -/
  shows : Document → Prop
  /-- The field holds the value that it has where it is left out. -/
  isUsual : Prop := False

/-- One member for each field, in the order of the fields, but for some that may be left out. -/
inductive ShowInOrder : List FieldView → List Member → Prop
  | nil : ShowInOrder [] []
  | shown {f : FieldView} {fs : List FieldView} {name : String} {d : Document} {members : List Member}
      (named : name ∈ f.names) (shows : f.shows d) (rest : ShowInOrder fs members) :
      ShowInOrder (f :: fs) ((.ok name, d) :: members)
  | left {f : FieldView} {fs : List FieldView} {members : List Member} (usual : f.isUsual)
      (rest : ShowInOrder fs members) : ShowInOrder (f :: fs) members

/-- A member has a name that none of the fields has. -/
def IsForeign (fs : List FieldView) (m : Member) : Prop :=
  ∃ name, m.1 = .ok name ∧ ∀ f ∈ fs, name ∉ f.names

/-- An object shows fields, in any order and among members with other names. -/
def Document.ShowsFields (fs : List FieldView) (d : Document) : Prop :=
  ∃ shown foreign members, d = .obj members none ∧ ShowInOrder fs shown ∧
    (∀ m ∈ foreign, IsForeign fs m) ∧ members.Perm (shown ++ foreign)

theorem ShowInOrder.showsFields {fs : List FieldView} {members : List Member} (h : ShowInOrder fs members) :
    (Document.obj members none).ShowsFields fs :=
  ⟨members, [], members, rfl, h, nofun, by rw [List.append_nil]⟩

/-! ## Reading them -/

/-- A field that is read, with what a certain value of it does to the state. -/
structure Slot (σ : Type) where
  field : Field σ
  shows : Document → Prop
  isUsual : Prop := False
  /-- The state with the value. -/
  fill : σ → σ

namespace Slot

variable {σ : Type}

def view (w : Slot σ) : FieldView where
  names := w.field.name :: w.field.aliases
  shows := w.shows
  isUsual := w.isUsual

/-- The slots of fields that are shown in certain ways. -/
def ofViews (fields : List (Field σ)) (views : List FieldView) (fills : List (σ → σ)) : List (Slot σ) :=
  (fields.zip (views.zip fills)).map fun (field, view, fill) =>
    { field, shows := view.shows, isUsual := view.isUsual, fill }

theorem forall_mem_ofViews_cons {field : Field σ} {fields : List (Field σ)} {view : FieldView}
    {views : List FieldView} {fill : σ → σ} {fills : List (σ → σ)} {p : Slot σ → Prop} :
    (∀ w ∈ ofViews (field :: fields) (view :: views) (fill :: fills), p w) ↔
      p { field, shows := view.shows, isUsual := view.isUsual, fill } ∧
        ∀ w ∈ ofViews fields views fills, p w := by
  simp only [ofViews, List.zip_cons_cons, List.map_cons, List.forall_mem_cons]

theorem forall_mem_ofViews_nil {p : Slot σ → Prop} : ∀ w ∈ ofViews [] [] [], p w :=
  List.forall_mem_nil p

/-- Two slots can be filled in either order, and neither fills the other. -/
@[mk_iff]
structure Apart (w w' : Slot σ) : Prop where
  names : ∀ name ∈ w.view.names, name ∉ w'.view.names
  isRead : ∀ s, w'.field.isRead (w.fill s) = w'.field.isRead s
  isRead' : ∀ s, w.field.isRead (w'.fill s) = w.field.isRead s
  fill : ∀ s, w'.fill (w.fill s) = w.fill (w'.fill s)

theorem Apart.symm {w w' : Slot σ} (h : Apart w w') : Apart w' w where
  names := fun name mem mem' => h.names name mem' mem
  isRead := h.isRead'
  isRead' := h.isRead
  fill := fun s => (h.fill s).symm

instance : Std.Symm (Apart : Slot σ → Slot σ → Prop) where
  symm := fun _ _ => Apart.symm

theorem isNamed_iff (w : Slot σ) {name : String} : w.field.isNamed name = true ↔ name ∈ w.view.names := by
  rw [Field.isNamed, view, List.mem_cons, Bool.or_eq_true, beq_iff_eq, List.contains_iff_mem, eq_comm]

/-- The state with the values of some slots. -/
def fillAll (slots : List (Slot σ)) (s : σ) : σ :=
  slots.foldl (fun s w => w.fill s) s

theorem fillAll_cons (w : Slot σ) (slots : List (Slot σ)) (s : σ) :
    fillAll (w :: slots) s = fillAll slots (w.fill s) := rfl

variable {w : Slot σ} {slots slots' : List (Slot σ)}

theorem isRead_fillAll (apart : ∀ w' ∈ slots, Apart w w') (s : σ) :
    w.field.isRead (fillAll slots s) = w.field.isRead s := by
  induction slots generalizing s with
  | nil => rfl
  | cons w' slots ih =>
    rw [List.forall_mem_cons] at apart
    rw [fillAll_cons, ih apart.2, apart.1.isRead']

theorem fillAll_fill (apart : ∀ w' ∈ slots, Apart w w') (s : σ) :
    fillAll slots (w.fill s) = w.fill (fillAll slots s) := by
  induction slots generalizing s with
  | nil => rfl
  | cons w' slots ih =>
    rw [List.forall_mem_cons] at apart
    rw [fillAll_cons, fillAll_cons, apart.1.fill, ih apart.2]

theorem fillAll_perm (perm : slots.Perm slots') (apart : slots.Pairwise Apart) (s : σ) :
    fillAll slots s = fillAll slots' s := by
  refine perm.foldl_eq' (fun w mem w' mem' s => ?_) s
  by_cases same : w = w'
  · rw [same]
  · exact (apart.forall mem mem' same).fill s

end Slot

namespace Record

variable {σ α : Type}

/-- A record whose fields fill slots of their own, and the value that all of them make. -/
structure Fits (r : Record σ α) (slots : List (Slot σ)) (a : α) : Prop where
  fields : r.fields = slots.map (·.field)
  apart : slots.Pairwise Slot.Apart
  reads : ∀ w ∈ slots, ∀ d s, d.IsWellFormed → w.shows d → w.field.read d s = .ok (w.fill s)
  unread : ∀ w ∈ slots, w.field.isRead r.empty = false
  usual : ∀ w ∈ slots, w.isUsual → ∀ s, w.field.isRead s = false →
    r.complete (w.fill s) = r.complete s
  complete : r.complete (Slot.fillAll slots r.empty) = .ok a

variable {r : Record σ α} {slots : List (Slot σ)} {a : α}

/-- The slot that a member fills. -/
def slotOf (slots : List (Slot σ)) (m : Member) : Option (Slot σ) :=
  m.1.toOption.bind fun name => slots.find? (·.field.isNamed name)

theorem slotOf_eq_some (apart : slots.Pairwise Slot.Apart) {w : Slot σ} (mem : w ∈ slots) {m : Member}
    {name : String} (key : m.1 = .ok name) (named : name ∈ w.view.names) : slotOf slots m = some w := by
  rw [slotOf, key]
  change slots.find? (·.field.isNamed name) = some w
  induction slots with
  | nil => cases mem
  | cons first slots ih =>
    rw [List.pairwise_cons] at apart
    rcases List.mem_cons.1 mem with rfl | mem
    · exact List.find?_cons_of_pos (w.isNamed_iff.2 named)
    · have other : first.field.isNamed name = false := by
        rw [← Bool.not_eq_true, first.isNamed_iff]
        exact fun is_first => (apart.1 w mem).names name is_first named
      simp only [List.find?_cons, other]
      exact ih apart.2 mem

theorem slotOf_eq_none {m : Member} (foreign : IsForeign (slots.map (·.view)) m) :
    slotOf slots m = none := by
  obtain ⟨name, key, other⟩ := foreign
  rw [slotOf, key]
  refine List.find?_eq_none.2 fun w mem named => ?_
  exact other w.view (List.mem_map_of_mem mem) (w.isNamed_iff.1 named)

/-- A member can be read: it shows the value of its slot, or it is passed over. -/
structure Legible (slots : List (Slot σ)) (m : Member) : Prop where
  key : ∃ name, m.1 = .ok name
  shows : ∀ w, slotOf slots m = some w → w.shows m.2
  value : m.2.IsWellFormed

/-- Members fill the slots they belong to. -/
theorem Fits.readMembers_eq (fits : r.Fits slots a) {members : List Member}
    (legible : ∀ m ∈ members, Legible slots m)
    (apart : (members.filterMap (slotOf slots)).Pairwise Slot.Apart) {s : σ}
    (unread : ∀ w ∈ members.filterMap (slotOf slots), w.field.isRead s = false) :
    readMembers r.fields members s = .ok (Slot.fillAll (members.filterMap (slotOf slots)) s) := by
  induction members generalizing s with
  | nil => rfl
  | cons m members ih =>
    rw [List.forall_mem_cons] at legible
    obtain ⟨key, value⟩ := m
    obtain ⟨⟨name, rfl⟩, shows, well_formed⟩ := legible.1
    have find_field : r.fields.find? (·.isNamed name) = (slotOf slots (.ok name, value)).map (·.field) := by
      rw [fits.fields, List.find?_map]
      rfl
    simp only [readMembers, Except.mapError, bind, Except.bind, find_field]
    cases slot : slotOf slots (.ok name, value) with
    | none =>
      rw [List.filterMap_cons_none slot] at apart unread ⊢
      change (do pass value; readMembers r.fields members s) = _
      rw [pass, well_formed.stop]
      exact ih legible.2 apart unread
    | some w =>
      have mem : w ∈ slots := List.mem_of_find?_eq_some slot
      rw [List.filterMap_cons_some slot] at apart unread ⊢
      rw [List.pairwise_cons] at apart
      rw [List.forall_mem_cons] at unread
      change (if w.field.isRead s = true then _ else do
        readMembers r.fields members (← w.field.read value s)) = _
      rw [unread.1, if_neg Bool.false_ne_true, fits.reads w mem value s well_formed (shows w slot)]
      refine ih legible.2 apart.2 fun w' mem' => ?_
      rw [(apart.1 w' mem').isRead, unread.2 w' mem']

/-- The slots that are filled where fields are shown. -/
inductive Chosen : List (Slot σ) → List (Slot σ) → Prop
  | nil : Chosen [] []
  | shown {w : Slot σ} {slots chosen : List (Slot σ)} (rest : Chosen slots chosen) :
      Chosen (w :: slots) (w :: chosen)
  | left {w : Slot σ} {slots chosen : List (Slot σ)} (usual : w.isUsual) (rest : Chosen slots chosen) :
      Chosen (w :: slots) chosen

theorem Chosen.sublist {chosen : List (Slot σ)} (h : Chosen slots chosen) : chosen.Sublist slots := by
  induction h with
  | nil => exact .slnil
  | shown _ ih => exact ih.cons_cons _
  | left _ _ ih => exact ih.cons _

/-- Slots with their usual values make no difference. -/
theorem Chosen.complete_eq {chosen : List (Slot σ)} (h : Chosen slots chosen)
    (apart : slots.Pairwise Slot.Apart)
    (usual : ∀ w ∈ slots, w.isUsual → ∀ s, w.field.isRead s = false →
      r.complete (w.fill s) = r.complete s) {s : σ}
    (unread : ∀ w ∈ slots, w.field.isRead s = false) :
    r.complete (Slot.fillAll chosen s) = r.complete (Slot.fillAll slots s) := by
  induction h generalizing s with
  | nil => rfl
  | @shown w slots chosen rest ih =>
    rw [List.pairwise_cons] at apart
    rw [List.forall_mem_cons] at usual unread
    rw [Slot.fillAll_cons, Slot.fillAll_cons]
    refine ih apart.2 usual.2 fun w' mem => ?_
    rw [(apart.1 w' mem).isRead, unread.2 w' mem]
  | @left w slots chosen is_usual rest ih =>
    rw [List.pairwise_cons] at apart
    rw [List.forall_mem_cons] at usual unread
    have still_unread : w.field.isRead (Slot.fillAll slots s) = false := by
      rw [Slot.isRead_fillAll apart.1, unread.1]
    rw [ih apart.2 usual.2 unread.2, Slot.fillAll_cons, Slot.fillAll_fill apart.1,
      usual.1 is_usual _ still_unread]

/-- Members in the order of the fields fill slots in this order. -/
theorem exists_chosen {all : List (Slot σ)} (apart : all.Pairwise Slot.Apart)
    (subset : ∀ w ∈ slots, w ∈ all) {members : List Member}
    (h : ShowInOrder (slots.map (·.view)) members) :
    ∃ chosen, Chosen slots chosen ∧ members.filterMap (slotOf all) = chosen ∧
      ∀ m ∈ members, m.2.IsWellFormed → Legible all m := by
  induction slots generalizing members with
  | nil =>
    cases h
    exact ⟨[], .nil, rfl, nofun⟩
  | cons w slots ih =>
    rw [List.forall_mem_cons] at subset
    cases h with
    | @shown _ _ name d members named shows rest =>
      obtain ⟨chosen, choice, eq, legible⟩ := ih subset.2 rest
      have slot : slotOf all (.ok name, d) = some w := slotOf_eq_some apart subset.1 rfl named
      refine ⟨w :: chosen, .shown choice, by rw [List.filterMap_cons_some slot, eq], ?_⟩
      refine List.forall_mem_cons.2 ⟨fun value => ⟨⟨name, rfl⟩, fun w' slot' => ?_, value⟩, legible⟩
      obtain rfl := Option.some.inj (slot.symm.trans slot')
      exact shows
    | left usual rest =>
      obtain ⟨chosen, choice, eq, legible⟩ := ih subset.2 rest
      exact ⟨chosen, .left usual choice, eq, legible⟩

/-- A record is read from every object that shows its fields, whatever else is in it. -/
theorem Fits.read_eq (fits : r.Fits slots a) {d : Document} (h : d.ShowsFields (slots.map (·.view)))
    (well_formed : d.IsWellFormed) : r.read d = .ok a := by
  obtain ⟨shown, foreign, members, rfl, in_order, foreign_names, perm⟩ := h
  obtain ⟨chosen, choice, eq, legible⟩ := exists_chosen fits.apart (fun _ mem => mem) in_order
  have no_slot : foreign.filterMap (slotOf slots) = [] :=
    List.filterMap_eq_nil_iff.2 fun m mem => slotOf_eq_none (foreign_names m mem)
  have fills : (members.filterMap (slotOf slots)).Perm chosen := by
    have filled := perm.filterMap (slotOf slots)
    rwa [List.filterMap_append, eq, no_slot, List.append_nil] at filled
  have chosen_apart : chosen.Pairwise Slot.Apart := fits.apart.sublist choice.sublist
  have apart : (members.filterMap (slotOf slots)).Pairwise Slot.Apart :=
    (fills.pairwise_iff fun h => h.symm).2 chosen_apart
  have all_legible : ∀ m ∈ members, Legible slots m := by
    intro m mem
    rcases List.mem_append.1 (perm.subset mem) with shown_mem | foreign_mem
    · exact legible m shown_mem (well_formed.members m mem)
    · obtain ⟨name, key, -⟩ := foreign_names m foreign_mem
      refine ⟨⟨name, key⟩, fun w slot => ?_, well_formed.members m mem⟩
      rw [slotOf_eq_none (foreign_names m foreign_mem)] at slot
      cases slot
  have unread : ∀ w ∈ members.filterMap (slotOf slots), w.field.isRead r.empty = false :=
    fun w mem => fits.unread w (choice.sublist.subset (fills.subset mem))
  have complete : r.complete (Slot.fillAll (members.filterMap (slotOf slots)) r.empty) = .ok a := by
    rw [Slot.fillAll_perm fills apart, choice.complete_eq fits.apart fits.usual fits.unread,
      fits.complete]
  change (do
    let state ← readMembers r.fields members r.empty
    proceed none
    (r.complete state).mapError .missingField) = _
  rw [fits.readMembers_eq all_legible apart unread]
  change (r.complete _).mapError _ = _
  rw [complete]
  rfl

end Record

/-! ## Lists of records -/

/-- A list of objects shows the fields of entries. -/
def Document.ShowsEntries {α : Type} (views : α → List FieldView) (entries : List α) (d : Document) : Prop :=
  ∃ items, d = .arr items none ∧ List.Forall₂ (fun entry d => d.ShowsFields (views entry)) entries items

theorem list_eq {β : Type} {read : Reader β} {entries : List β} {items : List Document}
    (each : List.Forall₂ (fun d entry => read d = .ok entry) items entries) :
    list read (.arr items none) = .ok entries := by
  change (do
    let values ← items.mapM read
    proceed none
    return values) = _
  rw [mapM_eq_ok_iff.2 each]
  rfl

/-- Records are read from every list of objects that show their fields. -/
theorem Record.list_eq {σ α : Type} {r : Record σ α} {slots : α → List (Slot σ)}
    (fits : ∀ entry, r.Fits (slots entry) entry) {entries : List α} {d : Document}
    (h : d.ShowsEntries (fun entry => (slots entry).map (·.view)) entries)
    (well_formed : d.IsWellFormed) : list r.read d = .ok entries := by
  obtain ⟨items, rfl, each⟩ := h
  have shown := (List.forall₂_and_left items entries).2 ⟨well_formed.items, each.flip⟩
  exact Json.list_eq (shown.imp fun _ entry h => (fits entry).read_eq h.2 h.1)

/-- A text is read as its document is. -/
theorem ofText_eq {β : Type} {read : Reader β} {d : Document} {text : String} (h : d.IsText text) {b : β}
    (found : read d = .ok b) : ofText read text = .ok b := by
  obtain ⟨rest, scanned, nothing⟩ := h.scan_eq
  rw [ofText, scanned]
  change (do
    let value ← read d
    if (dropSpace rest).isEmpty then return value else throw (ReadError.broken .malformed)) = _
  rw [found, nothing]
  rfl

end Joinery.Json
