import Joinery.Proofs.Json.Printed
import Joinery.Proofs.Json.Record
import Joinery.Request.Read

/-!
# Written requests

`QueryRequest.IsWritten` says that a text is a way to write a request: the fields of each object stand in
any order and among others, those with their usual values can be missing, and the operator of a measure has
two names. A request is read from whatever way it is written, the ones that print it among them:
`QueryRequest.ofJson_toJson_and_written`.
-/

namespace Joinery

open Json

/-! ## Ways to write a request -/

/-- The fields of a dimension, as they are written. -/
def DimensionEntry.views (s : DimensionEntry) : List FieldView :=
  [{ names := ["table"], shows := (· = textDocument s.table) },
   { names := ["columns"], shows := (· = textDocument s.columns) },
   { names := ["aliasName"], shows := (· = textDocument s.aliasName), isUsual := s.aliasName = "" }]

/-- The fields of a measure, as they are written. -/
def MeasureEntry.views (s : MeasureEntry) : List FieldView :=
  [{ names := ["table"], shows := (· = textDocument s.table) },
   { names := ["columns"], shows := (· = textDocument s.columns) },
   { names := ["operator", "operator2"], shows := (· = textDocument s.operator) },
   { names := ["aliasName"], shows := (· = textDocument s.aliasName), isUsual := s.aliasName = "" }]

/-- The fields of a request, as they are written. -/
def QueryRequest.views (r : QueryRequest) : List FieldView :=
  [{ names := ["schemaName"]
     shows := (· = (Value.ofOption r.schemaName).document)
     isUsual := r.schemaName = none },
   { names := ["dimensionData"]
     shows := Document.ShowsEntries DimensionEntry.views r.dimensionData
     isUsual := r.dimensionData = [] },
   { names := ["measureData"]
     shows := Document.ShowsEntries MeasureEntry.views r.measureData
     isUsual := r.measureData = [] },
   { names := ["conditionData"]
     shows := (· = textDocument r.conditionData)
     isUsual := r.conditionData = "" }]

/-- A text is a way to write a request. -/
def QueryRequest.IsWritten (r : QueryRequest) (source : String) : Prop :=
  ∃ d : Document, d.IsText source ∧ d.ShowsFields r.views

/-! ## Reading it -/

/-- The fields of a dimension, as they are read. -/
def DimensionEntry.slots (s : DimensionEntry) : List (Slot PartialDimension) :=
  Slot.ofViews record.fields s.views
    [fun p => { p with table := some s.table },
     fun p => { p with columns := some s.columns },
     fun p => { p with aliasName := some s.aliasName }]

theorem DimensionEntry.fits (s : DimensionEntry) : record.Fits s.slots s where
  fields := rfl
  apart := by simp [slots, Slot.ofViews, Slot.apart_iff, Slot.view, record, views]
  reads := by
    simp only [slots, record, views, Slot.forall_mem_ofViews_cons]
    refine ⟨?table, ?columns, ?aliasName, Slot.forall_mem_ofViews_nil⟩
    all_goals
      rintro _ p - rfl
      rfl
  unread := by simp [slots, Slot.ofViews, record, views]
  usual := by
    simp only [slots, record, views, Slot.forall_mem_ofViews_cons]
    refine ⟨False.elim, False.elim, ?_, Slot.forall_mem_ofViews_nil⟩
    rintro usual ⟨table, columns, aliasName⟩ unread
    obtain rfl : aliasName = none := by simpa using unread
    rw [usual]
    rfl
  complete := rfl

/-- The fields of a measure, as they are read. -/
def MeasureEntry.slots (s : MeasureEntry) : List (Slot PartialMeasure) :=
  Slot.ofViews record.fields s.views
    [fun p => { p with table := some s.table },
     fun p => { p with columns := some s.columns },
     fun p => { p with operator := some s.operator },
     fun p => { p with aliasName := some s.aliasName }]

theorem MeasureEntry.fits (s : MeasureEntry) : record.Fits s.slots s where
  fields := rfl
  apart := by simp [slots, Slot.ofViews, Slot.apart_iff, Slot.view, record, views]
  reads := by
    simp only [slots, record, views, Slot.forall_mem_ofViews_cons]
    refine ⟨?table, ?columns, ?operator, ?aliasName, Slot.forall_mem_ofViews_nil⟩
    all_goals
      rintro _ p - rfl
      rfl
  unread := by simp [slots, Slot.ofViews, record, views]
  usual := by
    simp only [slots, record, views, Slot.forall_mem_ofViews_cons]
    refine ⟨False.elim, False.elim, False.elim, ?_, Slot.forall_mem_ofViews_nil⟩
    rintro usual ⟨table, columns, operator, aliasName⟩ unread
    obtain rfl : aliasName = none := by simpa using unread
    rw [usual]
    rfl
  complete := rfl

/-- The fields of a request, as they are read. -/
def QueryRequest.slots (r : QueryRequest) : List (Slot PartialRequest) :=
  Slot.ofViews record.fields r.views
    [fun p => { p with schemaName := some r.schemaName },
     fun p => { p with dimensionData := some r.dimensionData },
     fun p => { p with measureData := some r.measureData },
     fun p => { p with conditionData := some r.conditionData }]

theorem optional_text_ofOption (s : Option String) : optional text (Value.ofOption s).document = .ok s := by
  cases s with
  | none | some s => rfl

theorem QueryRequest.fits (r : QueryRequest) : record.Fits r.slots r where
  fields := rfl
  apart := by simp [slots, Slot.ofViews, Slot.apart_iff, Slot.view, record, views]
  reads := by
    simp only [slots, record, views, Slot.forall_mem_ofViews_cons]
    refine ⟨?schemaName, ?dimensionData, ?measureData, ?conditionData, Slot.forall_mem_ofViews_nil⟩
    case schemaName =>
      rintro _ p - rfl
      rw [optional_text_ofOption]
      rfl
    case dimensionData =>
      intro d p well_formed shows
      rw [Record.list_eq DimensionEntry.fits shows well_formed]
      rfl
    case measureData =>
      intro d p well_formed shows
      rw [Record.list_eq MeasureEntry.fits shows well_formed]
      rfl
    case conditionData =>
      rintro _ p - rfl
      rfl
  unread := by simp [slots, Slot.ofViews, record, views]
  usual := by
    simp only [slots, record, views, Slot.forall_mem_ofViews_cons]
    refine ⟨?_, ?_, ?_, ?_, Slot.forall_mem_ofViews_nil⟩
    all_goals
      rintro usual ⟨schemaName, dimensionData, measureData, conditionData⟩ unread
      simp_all
  complete := rfl

theorem QueryRequest.ofJson_of_isWritten {r : QueryRequest} {source : String} (h : r.IsWritten source) :
    ofJson source = .ok r := by
  obtain ⟨d, text, shows⟩ := h
  exact ofText_eq text (r.fits.read_eq shows text.isWellFormed)

/-! ## Printing it -/

theorem DimensionEntry.shows_toJson (s : DimensionEntry) : s.toJson.document.ShowsFields s.views := by
  refine ShowInOrder.showsFields (.shown ?_ rfl (.shown ?_ rfl (.shown ?_ rfl .nil)))
  all_goals exact List.mem_singleton_self _

theorem MeasureEntry.shows_toJson (s : MeasureEntry) : s.toJson.document.ShowsFields s.views := by
  refine ShowInOrder.showsFields (.shown ?_ rfl (.shown ?_ rfl (.shown ?_ rfl (.shown ?_ rfl .nil))))
  all_goals exact List.mem_cons_self

theorem showsEntries_document {α : Type} {views : α → List FieldView} {toJson : α → Value}
    (shows : ∀ entry, (toJson entry).document.ShowsFields (views entry)) (entries : List α) :
    (Value.arr (entries.map toJson)).document.ShowsEntries views entries := by
  refine ⟨_, rfl, ?_⟩
  rw [Value.documents_eq_map, List.map_map, List.forall₂_map_right_iff]
  exact List.forall₂_same.2 fun entry _ => shows entry

theorem QueryRequest.shows_toJson (r : QueryRequest) : r.toJson.document.ShowsFields r.views := by
  have dimensions := showsEntries_document DimensionEntry.shows_toJson r.dimensionData
  have measures := showsEntries_document MeasureEntry.shows_toJson r.measureData
  refine ShowInOrder.showsFields
    (.shown ?_ rfl (.shown ?_ dimensions (.shown ?_ measures (.shown ?_ rfl .nil))))
  all_goals exact List.mem_singleton_self _

/-- A request is read from the texts that print it, and from every other way to write it. -/
theorem QueryRequest.ofJson_toJson_and_written (r : QueryRequest) :
    ofJson r.toJson.line = .ok r ∧ ofJson r.toJson.lines = .ok r ∧
      ∀ source, r.IsWritten source → ofJson source = .ok r :=
  ⟨ofJson_of_isWritten ⟨_, r.toJson.isText_line, r.shows_toJson⟩,
    ofJson_of_isWritten ⟨_, r.toJson.isText_lines, r.shows_toJson⟩,
    fun _ => ofJson_of_isWritten⟩

/-- A measure is read from members in another order, with the other name of its operator and among members
that a request does not have. -/
theorem rearranged_measure_read :
    QueryRequest.ofJson
        ("\x7b\"measureData\":[\x7b\"unit\":\x7b\x7d,\"operator2\":\"SUM\",\"columns\":\"amount\"," ++
          "\"table\":\"sales\"\x7d],\"note\":[null]\x7d") =
      .ok { measureData := [⟨"sales", "amount", "SUM", ""⟩] } := by
  let measure : Value :=
    .obj [("unit", .obj []), ("operator2", .text "SUM"), ("columns", .text "amount"), ("table", .text "sales")]
  let request : Value := .obj [("measureData", .arr [measure]), ("note", .arr [.null])]
  have measure_shown : measure.document.ShowsFields (MeasureEntry.views ⟨"sales", "amount", "SUM", ""⟩) := by
    let shown := Value.memberDocuments [("table", .text "sales"), ("columns", .text "amount"),
      ("operator2", .text "SUM")]
    let foreign := Value.memberDocuments [("unit", .obj [])]
    refine ⟨shown, foreign, _, rfl, ?_, ?_, List.reverse_perm (shown ++ foreign)⟩
    · refine .shown ?_ rfl (.shown ?_ rfl (.shown ?_ rfl (.left rfl .nil)))
      all_goals decide
    · exact List.forall_mem_singleton.2 ⟨"unit", rfl, by decide⟩
  have request_shown : request.document.ShowsFields
      (QueryRequest.views { measureData := [⟨"sales", "amount", "SUM", ""⟩] }) := by
    refine ⟨Value.memberDocuments [("measureData", .arr [measure])],
      Value.memberDocuments [("note", .arr [.null])], _, rfl, ?_, ?_, .refl _⟩
    · exact .left rfl (.left rfl (.shown (List.mem_singleton_self _)
        ⟨_, rfl, .cons measure_shown .nil⟩ (.left rfl .nil)))
    · exact List.forall_mem_singleton.2 ⟨"note", rfl, by decide⟩
  exact (QueryRequest.ofJson_toJson_and_written _).2.2 _ ⟨_, request.isText_line, request_shown⟩

end Joinery
