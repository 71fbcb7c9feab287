import Mathlib.Data.String.Basic
import Mathlib.Logic.Relation
import Joinery.Proofs.EraseDups
import Joinery.Proofs.Graph.Walk

/-!
# The shape of join paths

The edges of a walk, each kept where it first comes up, make a path. `JoinPath.Spans` says what such a
path is good for: it reaches every required table over links of the graph, joins no pair twice, grows
from edges that were there before, and has no table at its ends that nobody asked for.
-/

namespace Joinery

namespace JoinEdge

theorem touches_iff {e : JoinEdge} {table : String} :
    e.touches table = true ↔ e.left = table ∨ e.right = table := by
  simp [touches]

theorem connects_iff {e : JoinEdge} {a b : String} :
    e.connects a b = true ↔ e.left = a ∧ e.right = b ∨ e.left = b ∧ e.right = a := by
  simp [connects]

/-! ## Edges between two tables -/

theorem touches_ofTables {a b table : String} :
    (ofTables a b).touches table = true ↔ table = a ∨ table = b := by
  rw [touches_iff, ofTables]
  split_ifs <;> grind

theorem ofTables_cases (a b : String) :
    (ofTables a b).left = a ∧ (ofTables a b).right = b ∨
      (ofTables a b).left = b ∧ (ofTables a b).right = a := by
  rw [ofTables]
  split_ifs <;> simp

theorem left_lt_right_ofTables {a b : String} (ne : a ≠ b) :
    (ofTables a b).left < (ofTables a b).right := by
  rw [ofTables]
  split_ifs with le
  · exact lt_of_le_of_ne le ne
  · exact not_le.1 le

/-- Two edges that meet in a table lead to the same table only if they are the same. -/
theorem eq_of_ofTables_eq {a b table : String} (h : ofTables a table = ofTables table b) : a = b := by
  have left := touches_ofTables.1 (h ▸ touches_ofTables.2 (.inl rfl) : (ofTables table b).touches a)
  have right := touches_ofTables.1 (h ▸ touches_ofTables.2 (.inr rfl) : (ofTables a table).touches b)
  grind

theorem not_connects_of_ne {e f : JoinEdge} (he : e.left < e.right) (hf : f.left < f.right)
    (ne : e ≠ f) : ¬ f.connects e.left e.right := by
  rw [connects_iff]
  rintro (⟨left, right⟩ | ⟨left, right⟩)
  · cases e
    cases f
    exact ne (by rw [JoinEdge.mk.injEq]; exact ⟨left.symm, right.symm⟩)
  · rw [left, right] at hf
    exact lt_asymm he hf

end JoinEdge

namespace JoinPath

/-- Two edges share a table. -/
def Meets (e f : JoinEdge) : Prop :=
  ∃ table, e.touches table ∧ f.touches table

/-- Every edge but the first shares a table with one before it. -/
def Attached (edges : List JoinEdge) : Prop :=
  ∀ before e after, edges = before ++ e :: after → before ≠ [] → ∃ f ∈ before, Meets f e

/-- Two tables are connected by some of the edges. -/
def Connected (edges : List JoinEdge) : String → String → Prop :=
  Relation.ReflTransGen fun a b => ∃ e ∈ edges, e.connects a b

/-- What a path has to be that joins all required tables along links of a graph, and others only where
they lead on. -/
structure Spans (p : JoinPath) (g : JoinGraph) (required : List String) : Prop where
  ne_nil : p.edges ≠ []
  covers : ∀ table ∈ required, ∃ e ∈ p.edges, e.touches table
  linked : ∀ e ∈ p.edges, e.left ≠ e.right ∧ e.right ∈ g.neighbors e.left ∧
    e.left ∈ g.neighbors e.right ∧ e.left < e.right
  once : p.edges.Pairwise fun e f => ¬ f.connects e.left e.right
  attached : Attached p.edges
  connected : ∀ front, front <+: p.edges → ∀ e ∈ front, ∀ f ∈ front, ∀ a b,
    e.touches a → f.touches b → Connected front a b
  leads_on : ∀ table, p.hasTable table → table ∉ required →
    ∃ e ∈ p.edges, ∃ f ∈ p.edges, e ≠ f ∧ e.touches table ∧ f.touches table

/-! ## Attached edges -/

theorem Attached.of_prefix {front edges : List JoinEdge} (h : Attached edges)
    (pre : front <+: edges) : Attached front := by
  obtain ⟨rest, rfl⟩ := pre
  rintro before e after rfl ne
  exact h before e (after ++ rest) (by simp) ne

theorem attached_concat {edges : List JoinEdge} {e : JoinEdge} (h : Attached edges)
    (meets : edges ≠ [] → ∃ f ∈ edges, Meets f e) : Attached (edges ++ [e]) := by
  intro before f after eq ne
  rcases List.eq_nil_or_concat' after with rfl | ⟨after, last, rfl⟩
  · obtain ⟨rfl, same⟩ := List.append_inj' eq rfl
    obtain rfl := List.singleton_inj.1 same
    exact meets ne
  · have eq : edges ++ [e] = (before ++ f :: after) ++ [last] := by simpa using eq
    obtain ⟨rfl, -⟩ := List.append_inj' eq rfl
    exact h before f after rfl ne

theorem attached_nil : Attached [] := by
  intro before e after eq
  simp at eq

theorem attached_singleton (e : JoinEdge) : Attached [e] :=
  attached_concat attached_nil fun ne => absurd rfl ne

/-- Edges each of which shares a table with the next are attached, also if repeated ones are left
out. -/
theorem attached_eraseDups {edges : List JoinEdge} (h : edges.IsChain Meets) :
    Attached edges.eraseDups := by
  induction edges using List.reverseRecOn with
  | nil => exact attached_nil
  | append_singleton edges e ih =>
    obtain ⟨front, -, last⟩ := List.isChain_append.1 h
    rw [eraseDups_concat]
    split_ifs
    · exact ih front
    · refine attached_concat (ih front) fun ne => ?_
      cases at_end : edges.getLast? with
      | none =>
        rw [List.getLast?_eq_none_iff.1 at_end] at ne
        exact absurd rfl ne
      | some f =>
        exact ⟨f, List.mem_eraseDups.2 (List.mem_of_getLast? at_end), last f at_end e rfl⟩

theorem Connected.mono {edges edges' : List JoinEdge} (sub : edges ⊆ edges') {a b : String}
    (h : Connected edges a b) : Connected edges' a b := by
  induction h with
  | refl => exact .refl
  | tail _ step ih =>
    obtain ⟨e, he, c⟩ := step
    exact .tail ih ⟨e, sub he, c⟩

theorem Connected.symm {edges : List JoinEdge} {a b : String} (h : Connected edges a b) :
    Connected edges b a := by
  induction h with
  | refl => exact .refl
  | tail _ step ih =>
    obtain ⟨e, he, c⟩ := step
    exact .head ⟨e, he, JoinEdge.connects_iff.2 (JoinEdge.connects_iff.1 c).symm⟩ ih

theorem connected_of_touches {edges : List JoinEdge} {e : JoinEdge} (he : e ∈ edges) {a b : String}
    (ha : e.touches a) (hb : e.touches b) : Connected edges a b := by
  rw [JoinEdge.touches_iff] at ha hb
  by_cases same : a = b
  · exact same ▸ .refl
  · exact .single ⟨e, he, JoinEdge.connects_iff.2 (by grind)⟩

/-- Attached edges are in one piece: the last one hangs on the piece before it. -/
theorem Attached.connected {edges : List JoinEdge} (h : Attached edges) {e f : JoinEdge}
    (he : e ∈ edges) (hf : f ∈ edges) {a b : String} (ha : e.touches a) (hb : f.touches b) :
    Connected edges a b := by
  induction edges using List.reverseRecOn generalizing a b e f with
  | nil => cases he
  | append_singleton edges last ih =>
    have mono : ∀ {x y}, Connected edges x y → Connected (edges ++ [last]) x y :=
      Connected.mono (List.subset_append_left edges [last])
    have ih := @ih (h.of_prefix (List.prefix_append edges [last]))
    have last_mem : last ∈ edges ++ [last] := by simp
    -- A table of the last edge is connected to any table of the piece before.
    have across : ∀ {e x y}, e ∈ edges → e.touches x → last.touches y →
        Connected (edges ++ [last]) x y := by
      intro e x y he hx hy
      obtain ⟨k, hk, table, first, second⟩ := h edges last [] rfl (List.ne_nil_of_mem he)
      exact (mono (ih he hk hx first)).trans (connected_of_touches last_mem second hy)
    rcases List.mem_append.1 he with he | he <;> rcases List.mem_append.1 hf with hf | hf
    · exact mono (ih he hf ha hb)
    · exact across he ha (List.mem_singleton.1 hf ▸ hb)
    · exact (across hf hb (List.mem_singleton.1 he ▸ ha)).symm
    · rw [List.mem_singleton] at he hf
      exact connected_of_touches last_mem (he ▸ ha) (hf ▸ hb)

/-! ## The edges of a walk -/

theorem mem_steps_iff {walk : List String} {e : JoinEdge} :
    e ∈ steps walk ↔ ∃ a b, [a, b] <:+: walk ∧ e = .ofTables a b := by
  induction walk with
  | nil => simp [steps]
  | cons x walk ih =>
    cases walk with
    | nil =>
      simp only [steps, List.not_mem_nil, false_iff, not_exists, not_and]
      intro a b part
      exact absurd part.length_le (by simp)
    | cons y walk =>
      rw [steps, List.mem_cons, ih]
      constructor
      · rintro (rfl | ⟨a, b, part, rfl⟩)
        · exact ⟨x, y, ⟨[], walk, rfl⟩, rfl⟩
        · exact ⟨a, b, List.infix_cons part, rfl⟩
      · rintro ⟨a, b, part, rfl⟩
        rcases List.infix_cons_iff.1 part with front | part
        · obtain ⟨rest, eq⟩ := front
          simp only [List.cons_append, List.nil_append, List.cons.injEq] at eq
          exact .inl (by rw [eq.1, eq.2.1])
        · exact .inr ⟨a, b, part, rfl⟩

theorem isChain_steps (walk : List String) : (steps walk).IsChain Meets := by
  induction walk with
  | nil => exact List.isChain_nil
  | cons x walk ih =>
    cases walk with
    | nil => exact List.isChain_nil
    | cons y walk =>
      rw [steps, List.isChain_cons]
      refine ⟨fun f hf => ?_, ih⟩
      cases walk with
      | nil => cases hf
      | cons z walk =>
        obtain rfl := Option.some.inj hf
        exact ⟨y, JoinEdge.touches_ofTables.2 (.inr rfl), JoinEdge.touches_ofTables.2 (.inl rfl)⟩

theorem mem_ofWalk_iff {walk : List String} {e : JoinEdge} :
    e ∈ (ofWalk walk).edges ↔ ∃ a b, [a, b] <:+: walk ∧ e = .ofTables a b :=
  List.mem_eraseDups.trans mem_steps_iff

theorem attached_ofWalk (walk : List String) : Attached (ofWalk walk).edges :=
  attached_eraseDups (isChain_steps walk)

/-- In a walk of two tables or more, every table has a neighbour. -/
theorem exists_touches_of_mem {walk : List String} {table : String} (mem : table ∈ walk)
    (two : 2 ≤ walk.length) : ∃ e ∈ (ofWalk walk).edges, e.touches table := by
  obtain ⟨front, back, rfl⟩ := List.append_of_mem mem
  cases back with
  | cons y back =>
    exact ⟨.ofTables table y, mem_ofWalk_iff.2 ⟨table, y, ⟨front, back, by simp⟩, rfl⟩,
      JoinEdge.touches_ofTables.2 (.inl rfl)⟩
  | nil =>
    rcases List.eq_nil_or_concat' front with rfl | ⟨front, x, rfl⟩
    · simp at two
    · exact ⟨.ofTables x table, mem_ofWalk_iff.2 ⟨x, table, ⟨front, [], by simp⟩, rfl⟩,
        JoinEdge.touches_ofTables.2 (.inr rfl)⟩

variable {g : JoinGraph}

/-- A walk between two stops or more gives a path that spans them. -/
theorem spans_ofWalk (wf : g.WellFormed) {stops walk : List String} (h : g.IsWalk stops walk)
    (nodup : stops.Nodup) (two : 2 ≤ stops.length) : (ofWalk walk).Spans g stops := by
  have long : 2 ≤ walk.length := two.trans (nodup.length_le_of_subset h.passes)
  have covers : ∀ table ∈ stops, ∃ e ∈ (ofWalk walk).edges, e.touches table :=
    fun table mem => exists_touches_of_mem (h.passes table mem) long
  have linked : ∀ e ∈ (ofWalk walk).edges, e.left ≠ e.right ∧ e.right ∈ g.neighbors e.left ∧
      e.left ∈ g.neighbors e.right ∧ e.left < e.right := by
    intro e he
    obtain ⟨a, b, part, rfl⟩ := mem_ofWalk_iff.1 he
    have pair := List.IsChain.infix h.linked part
    have ab : b ∈ g.neighbors a := List.isChain_pair.1 pair
    have ba : a ∈ g.neighbors b := wf.mem_neighbors_comm.1 ab
    have lt := JoinEdge.left_lt_right_ofTables (wf.ne_of_mem_neighbors ab)
    refine ⟨ne_of_lt lt, ?_, ?_, lt⟩ <;>
      rcases JoinEdge.ofTables_cases a b with ⟨left, right⟩ | ⟨left, right⟩ <;>
      rw [left, right] <;> assumption
  have attached := attached_ofWalk walk
  refine ⟨?_, covers, linked, ?_, attached, ?_, ?_⟩
  · obtain ⟨stop, mem⟩ := List.exists_mem_of_length_pos (by omega : 0 < stops.length)
    obtain ⟨e, he, -⟩ := covers stop mem
    exact List.ne_nil_of_mem he
  · exact (nodup_eraseDups (steps walk)).imp_of_mem fun he hf ne =>
      JoinEdge.not_connects_of_ne (linked _ he).2.2.2 (linked _ hf).2.2.2 ne
  · intro front pre e he f hf a b ha hb
    exact (attached.of_prefix pre).connected he hf ha hb
  · intro table touched not_stop
    obtain ⟨e, he, touches⟩ := List.any_eq_true.1 touched
    obtain ⟨a, b, part, rfl⟩ := mem_ofWalk_iff.1 he
    have mem : table ∈ walk := part.subset (by
      rcases JoinEdge.touches_ofTables.1 touches with rfl | rfl <;> simp)
    obtain ⟨before, after, around, ne⟩ := h.between table mem not_stop
    have first : [before, table] <:+: walk := List.IsInfix.trans ⟨[], [after], rfl⟩ around
    have second : [table, after] <:+: walk := List.IsInfix.trans ⟨[before], [], rfl⟩ around
    exact ⟨_, mem_ofWalk_iff.2 ⟨before, table, first, rfl⟩, _,
      mem_ofWalk_iff.2 ⟨table, after, second, rfl⟩,
      fun e => ne (JoinEdge.eq_of_ofTables_eq e), JoinEdge.touches_ofTables.2 (.inr rfl),
      JoinEdge.touches_ofTables.2 (.inl rfl)⟩

theorem Spans.of_mem_iff {p : JoinPath} {stops required : List String} (h : p.Spans g stops)
    (same : ∀ table, table ∈ stops ↔ table ∈ required) : p.Spans g required where
  ne_nil := h.ne_nil
  covers table mem := h.covers table ((same table).2 mem)
  linked := h.linked
  once := h.once
  attached := h.attached
  connected := h.connected
  leads_on table touched not_required :=
    h.leads_on table touched fun mem => not_required ((same table).1 mem)

end JoinPath

namespace JoinGraph

/-- Two tables or more that differ. -/
theorem two_le_length_eraseDups {required : List String} {a b : String} (ha : a ∈ required)
    (hb : b ∈ required) (ne : a ≠ b) : 2 ≤ required.eraseDups.length := by
  have pair : [a, b].Nodup := by simp [ne]
  refine pair.length_le_of_subset fun x hx => List.mem_eraseDups.2 ?_
  rcases List.mem_cons.1 hx with rfl | hx
  · exact ha
  · exact List.mem_singleton.1 hx ▸ hb

theorem spans_of_resolve (wf : WellFormed g) {required : List String} {p : JoinPath}
    (h : g.resolve required = .ok p) (two : 2 ≤ required.eraseDups.length) :
    p.Spans g required := by
  obtain ⟨stops, walk, same, isWalk, rfl⟩ := exists_walk_of_resolve wf h two
  have nodup : stops.Nodup := same.nodup_iff.2 (nodup_eraseDups required)
  refine (JoinPath.spans_ofWalk wf isWalk nodup (same.length_eq ▸ two)).of_mem_iff fun table => ?_
  rw [same.mem_iff, List.mem_eraseDups]

/-- A path that joins two different tables or more in a graph built from a catalog spans them. -/
theorem resolve_spans_required {ls : List Link} {g : JoinGraph} (built : build ls = .ok g)
    {required : List String} {p : JoinPath} (resolved : g.resolve required = .ok p)
    {a b : String} (ha : a ∈ required) (hb : b ∈ required) (ne : a ≠ b) : p.Spans g required :=
  spans_of_resolve (wellFormed_of_build built) resolved (two_le_length_eraseDups ha hb ne)

/-- A small catalog: facts about students of a campus in a term, and the countries they come from. -/
def schoolLinks : List Link :=
  [⟨"fact", "term", ["term_id"], ["id"]⟩,
    ⟨"fact", "student", ["student_id"], ["id"]⟩,
    ⟨"student", "country", ["country_id"], ["id"]⟩,
    ⟨"campus", "fact", ["id", "org"], ["campus_id", "org"]⟩]

/-- From the country back over students and facts, which nobody asked for, to the other tables. -/
theorem school_path_spans :
    ∃ g, build schoolLinks = .ok g ∧
      g.resolve ["term", "country", "campus", "term"] =
        .ok ⟨[⟨"fact", "term"⟩, ⟨"campus", "fact"⟩, ⟨"fact", "student"⟩, ⟨"country", "student"⟩]⟩ ∧
      (⟨[⟨"fact", "term"⟩, ⟨"campus", "fact"⟩, ⟨"fact", "student"⟩, ⟨"country", "student"⟩]⟩ :
        JoinPath).Spans g ["term", "country", "campus", "term"] := by
  have found : (build schoolLinks >>= (·.resolve ["term", "country", "campus", "term"])) =
      .ok ⟨[⟨"fact", "term"⟩, ⟨"campus", "fact"⟩, ⟨"fact", "student"⟩, ⟨"country", "student"⟩]⟩ := by
    decide +kernel
  obtain ⟨g, built, resolved⟩ := bind_eq_ok_iff.1 found
  exact ⟨g, built, resolved, resolve_spans_required built resolved (a := "term") (b := "country")
    (by decide) (by decide) (by decide)⟩

end JoinGraph

end Joinery
