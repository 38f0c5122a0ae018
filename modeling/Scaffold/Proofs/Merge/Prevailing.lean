import Mathlib.Data.Prod.Lex
import Scaffold.Proofs.Merge.Dependencies

/-!
What any number of entries for one package settle to. A version that cannot be read keeps its place
if it stands first and has no say otherwise; of the others the first of the highest prevails.
Whether the package is needed at run time is up to any entry that says so.
-/

namespace Scaffold

namespace Version

/-- The numbers of a version, of which an earlier one counts for more. -/
def numbers (v : Version) : ℕ ×ₗ ℕ ×ₗ ℕ :=
  toLex (v.major, toLex (v.minor, v.patch))

/-- Higher numbers are above lower ones, and a release is above the prereleases of its numbers. -/
def Above (v w : Version) : Prop :=
  w.numbers < v.numbers ∨ v.numbers = w.numbers ∧ v.prerelease = none ∧ w.prerelease ≠ none

theorem compare_isRelease_eq_gt_iff {v w : Version} :
    compare v.isRelease w.isRelease = .gt ↔ v.prerelease = none ∧ w.prerelease ≠ none := by
  have released : compare true false = .gt := rfl
  unfold isRelease
  cases v.prerelease <;> cases w.prerelease <;> simp [released]

theorem precedence_eq_gt_iff {v w : Version} : v.precedence w = .gt ↔ v.Above w := by
  unfold precedence Above numbers
  simp only [Ordering.then_eq_gt, Nat.compare_eq_gt, Nat.compare_eq_eq,
    compare_isRelease_eq_gt_iff, Prod.Lex.toLex_lt_toLex, toLex_inj, Prod.mk.injEq]
  grind

theorem not_above_iff {v w : Version} : ¬v.Above w ↔ (v.precedence w).isLE := by
  rw [← precedence_eq_gt_iff, Ordering.isLE_iff_ne_gt]

theorem not_above_iff_isGE {v w : Version} : ¬v.Above w ↔ (w.precedence v).isGE := by
  rw [not_above_iff, Std.OrientedCmp.isGE_iff_isLE]

theorem above_of_not_above_of_above {u v w : Version} (below : ¬v.Above w) (above : v.Above u) :
    w.Above u :=
  precedence_eq_gt_iff.1 (Std.TransCmp.gt_of_isGE_of_gt (not_above_iff_isGE.1 below)
    (precedence_eq_gt_iff.2 above))

theorem above_of_above_of_not_above {u v w : Version} (above : v.Above u) (below : ¬w.Above u) :
    v.Above w :=
  precedence_eq_gt_iff.1 (Std.TransCmp.gt_of_gt_of_isGE (precedence_eq_gt_iff.2 above)
    (not_above_iff_isGE.1 below))

theorem Above.asymm {v w : Version} (above : v.Above w) : ¬w.Above v :=
  precedence_eq_gt_iff.not.1 (Std.OrientedCmp.not_gt_of_gt (precedence_eq_gt_iff.2 above))

end Version

namespace Dependency

/-- Both versions can be read, and that of `d` is above that of `e`. -/
def Above (d e : Dependency) : Prop :=
  ∃ v w, Version.parse d.version = .ok v ∧ Version.parse e.version = .ok w ∧ v.Above w

theorem Above.readable {d e : Dependency} (above : d.Above e) : d.Readable := by
  obtain ⟨v, -, first, -⟩ := above
  exact ⟨v, first⟩

theorem above_iff {d e : Dependency} {v w : Version} (first : Version.parse d.version = .ok v)
    (second : Version.parse e.version = .ok w) : d.Above e ↔ v.Above w := by
  constructor
  · rintro ⟨_, _, same, same', above⟩
    rw [first] at same
    rw [second] at same'
    exact Except.ok.inj same ▸ Except.ok.inj same' ▸ above
  · exact fun above => ⟨v, w, first, second, above⟩

theorem outranks_iff_above {d e : Dependency} : d.outranks e ↔ d.Above e := by
  constructor
  · intro outranks
    unfold Dependency.outranks at outranks
    cases first : Version.parse d.version with
    | error fault => simp [first] at outranks
    | ok v =>
        cases second : Version.parse e.version with
        | error fault => simp [first, second] at outranks
        | ok w =>
            rw [first, second] at outranks
            exact ⟨v, w, first, second, Version.precedence_eq_gt_iff.1 (beq_iff_eq.1 outranks)⟩
  · rintro ⟨v, w, first, second, above⟩
    exact (outranks_iff first second).2 (Version.precedence_eq_gt_iff.2 above)

theorem prevailing_of_above {d e : Dependency} (above : d.Above e) : prevailing e d = d :=
  if_pos (outranks_iff_above.2 above)

theorem prevailing_of_not_above {d e : Dependency} (below : ¬d.Above e) : prevailing e d = e :=
  if_neg (outranks_iff_above.not.2 below)

theorem Above.asymm {d e : Dependency} (above : d.Above e) : ¬e.Above d := by
  obtain ⟨v, w, first, second, above⟩ := above
  rw [above_iff second first]
  exact above.asymm

theorem above_of_not_above_of_above {d e f : Dependency} (readable : f.Readable)
    (below : ¬d.Above f) (above : d.Above e) : f.Above e := by
  obtain ⟨w, third⟩ := readable
  obtain ⟨v, u, first, second, above⟩ := above
  rw [above_iff first third] at below
  exact ⟨w, u, third, second, Version.above_of_not_above_of_above below above⟩

theorem above_of_above_of_not_above {d e f : Dependency} (readable : f.Readable)
    (above : d.Above e) (below : ¬f.Above e) : d.Above f := by
  obtain ⟨w, third⟩ := readable
  obtain ⟨v, u, first, second, above⟩ := above
  rw [above_iff third second] at below
  exact ⟨v, w, first, third, Version.above_of_above_of_not_above above below⟩

/-- The first of the entries whose version is the highest of those that can be read. -/
structure FirstHighest (entries : List Dependency) (w : Dependency) : Prop where
  readable : w.Readable
  first : ∃ before after, entries = before ++ w :: after ∧
    (∀ d ∈ before, d.Readable → w.Above d) ∧ ∀ d ∈ after, ¬d.Above w

namespace FirstHighest

theorem singleton {d : Dependency} (readable : d.Readable) : FirstHighest [d] d :=
  ⟨readable, [], [], rfl, nofun, nofun⟩

theorem highest {w : Dependency} {entries : List Dependency} (first : FirstHighest entries w) :
    ∀ d ∈ entries, ¬d.Above w := by
  obtain ⟨-, before, after, rfl, lower, rest⟩ := first
  intro d member above
  rcases List.mem_append.1 member with early | late
  · exact (lower d early above.readable).asymm above
  · rcases List.mem_cons.1 late with rfl | late
    · exact above.asymm above
    · exact rest d late above

/-- An entry in front gives way to one that is above it. -/
theorem cons {d e w : Dependency} {entries : List Dependency}
    (first : FirstHighest (e :: entries) w) (above : e.Above d) :
    FirstHighest (d :: e :: entries) w := by
  have overtakes : w.Above d := above_of_not_above_of_above first.readable
    (first.highest e List.mem_cons_self) above
  obtain ⟨readable, before, after, split, lower, rest⟩ := first
  refine ⟨readable, d :: before, after, congrArg (d :: ·) split, ?_, rest⟩
  intro b member known
  rcases List.mem_cons.1 member with rfl | member
  · exact overtakes
  · exact lower b member known

/-- An entry that is not above the first one has no say. -/
theorem insert {d e w : Dependency} {entries : List Dependency} (readable : d.Readable)
    (highest : FirstHighest (d :: entries) w) (below : ¬e.Above d) :
    FirstHighest (d :: e :: entries) w := by
  obtain ⟨known, before, after, split, lower, rest⟩ := highest
  cases before with
  | nil =>
      cases split
      exact ⟨known, [], e :: entries, rfl, nofun, List.forall_mem_cons.2 ⟨below, rest⟩⟩
  | cons b before =>
      cases split
      have overtakes : w.Above d := lower d List.mem_cons_self readable
      refine ⟨known, d :: e :: before, after, rfl, ?_, rest⟩
      intro c member
      simp only [List.mem_cons] at member
      rcases member with rfl | rfl | member
      · exact lower c List.mem_cons_self
      · intro plain
        exact above_of_above_of_not_above plain overtakes below
      · exact lower c (List.mem_cons_of_mem d member)

end FirstHighest

theorem firstHighest_foldl {first : Dependency} (rest : List Dependency)
    (readable : first.Readable) : FirstHighest (first :: rest) (rest.foldl prevailing first) := by
  induction rest generalizing first with
  | nil => exact .singleton readable
  | cons d rest ih =>
      rw [List.foldl_cons]
      by_cases above : d.Above first
      · rw [prevailing_of_above above]
        exact (ih above.readable).cons above
      · rw [prevailing_of_not_above above]
        exact (ih readable).insert readable above

theorem foldl_prevailing_of_not_readable {first : Dependency} (rest : List Dependency)
    (unreadable : ¬first.Readable) : rest.foldl prevailing first = first := by
  induction rest with
  | nil => rfl
  | cons d rest ih =>
      have below : ¬d.Above first := fun ⟨_, w, _, known, _⟩ => unreadable ⟨w, known⟩
      rw [List.foldl_cons, prevailing_of_not_above below, ih]

/-- The entry of a package that gives it its version: the first one, if its version cannot be read,
and else the first of the highest. -/
def Prevails (first : Dependency) (rest : List Dependency) (w : Dependency) : Prop :=
  ¬first.Readable ∧ w = first ∨ first.Readable ∧ FirstHighest (first :: rest) w

theorem prevails_foldl (first : Dependency) (rest : List Dependency) :
    Prevails first rest (rest.foldl prevailing first) := by
  by_cases readable : first.Readable
  · exact .inr ⟨readable, firstHighest_foldl rest readable⟩
  · exact .inl ⟨readable, foldl_prevailing_of_not_readable rest readable⟩

/-! Beside the version, only whether the package is needed at run time is settled. -/

theorem atRuntime_foldl_resolve {a b : Dependency} (rest : List Dependency)
    (same : a.atRuntime = b.atRuntime) :
    (rest.foldl resolve a).atRuntime = (rest.foldl prevailing b).atRuntime := by
  induction rest generalizing a b with
  | nil => exact same
  | cons d rest ih =>
      exact ih ((atRuntime_resolve a d).trans (atRuntime_prevailing_congr same rfl))

theorem forRuntime_foldl_resolve (first : Dependency) (rest : List Dependency) :
    (rest.foldl resolve first).ForRuntime ↔ ∃ d ∈ first :: rest, d.ForRuntime := by
  induction rest generalizing first with
  | nil => simp
  | cons d rest ih =>
      rw [List.foldl_cons, ih]
      simp [forRuntime_resolve, or_assoc]

theorem atRuntime_resolve_of_forRuntime {a b : Dependency} (needed : (a.resolve b).ForRuntime) :
    (a.resolve b).atRuntime = a.resolve b := by
  rw [resolve_of_forRuntime ((forRuntime_resolve a b).1 needed), atRuntime_atRuntime]

theorem atRuntime_foldl_of_forRuntime {first : Dependency} {rest : List Dependency}
    (several : rest ≠ []) (needed : (rest.foldl resolve first).ForRuntime) :
    (rest.foldl resolve first).atRuntime = rest.foldl resolve first := by
  rw [← List.dropLast_append_getLast several, List.foldl_concat] at needed ⊢
  exact atRuntime_resolve_of_forRuntime needed

theorem foldl_resolve_of_not_forRuntime {first : Dependency} {rest : List Dependency}
    (optional : ∀ d ∈ first :: rest, ¬d.ForRuntime) :
    rest.foldl resolve first = rest.foldl prevailing first := by
  induction rest generalizing first with
  | nil => rfl
  | cons d rest ih =>
      obtain ⟨head, next, others⟩ := List.forall_mem_cons.1 optional |>.imp_right
        List.forall_mem_cons.1
      rw [List.foldl_cons, resolve_of_not_forRuntime (not_or.2 ⟨head, next⟩), List.foldl_cons]
      refine ih (List.forall_mem_cons.2 ⟨?_, others⟩)
      rcases prevailing_cases first d with kept | kept
      · rwa [kept]
      · rwa [kept]

/-- What the entries of one package, from the first to the last, come to. One that is alone stays as
it is. Of several the prevailing one stays, turned into one for run time if any of them is. -/
structure Settles (first : Dependency) (rest : List Dependency) (d : Dependency) : Prop where
  alone : rest = [] → d = first
  several : rest ≠ [] → ∃ w, Prevails first rest w ∧ d.version = w.version ∧
    ((∃ e ∈ first :: rest, e.dev = some false) → d.dev = some false ∧
      d.kind = if w.kind = some .devDependencies then some .dependencies else w.kind) ∧
    ((∀ e ∈ first :: rest, e.dev ≠ some false) → d = w)

theorem settles_foldl (first : Dependency) (rest : List Dependency) :
    Settles first rest (rest.foldl resolve first) where
  alone := by
    rintro rfl
    rfl
  several := by
    intro several
    have same := atRuntime_foldl_resolve rest (rfl : first.atRuntime = first.atRuntime)
    refine ⟨rest.foldl prevailing first, prevails_foldl first rest, (eq_of_atRuntime_eq same).2,
      ?_, foldl_resolve_of_not_forRuntime⟩
    intro needed
    have runtime := (forRuntime_foldl_resolve first rest).2 needed
    rw [← atRuntime_foldl_of_forRuntime several runtime, same]
    exact ⟨rfl, rfl⟩

end Dependency

open Dependency

theorem foldl_mergeDependencies (existing : List Dependency) (lists : List (List Dependency)) :
    lists.foldl mergeDependencies existing = mergeDependencies existing lists.flatten :=
  List.foldl_flatten.symm

/-- What merging lists of dependencies one after the other leaves: each package once, where it first
occurs, with what its entries come to in their order. -/
theorem foldl_mergeDependencies_settles (lists : List (List Dependency)) :
    (lists.foldl mergeDependencies []).map (·.name) = (lists.flatten.map (·.name)).eraseDups ∧
    ∀ name first rest, lists.flatten.filter (·.name = name) = first :: rest →
      ∃ d, (lists.foldl mergeDependencies []).filter (·.name = name) = [d] ∧
        Settles first rest d := by
  rw [foldl_mergeDependencies, mergeDependencies_eq_settleAll]
  refine ⟨map_settleAll_nil keepsName _, ?_⟩
  intro name first rest entries
  refine ⟨rest.foldl resolve first, ?_, settles_foldl first rest⟩
  rw [filter_eq_find?_toList (nodup_settleAll_nil keepsName _), find?_settleAll_nil keepsName,
    entries, settled_cons]
  rfl

/-- The release prevails over its prerelease, and is needed at run time as that one is. -/
example :
    [[⟨"zod", "^3.22.0", some .devDependencies, none⟩],
      [⟨"react", "18.2.0", none, none⟩, ⟨"zod", "latest", none, none⟩],
      [⟨"zod", "~3.22.0-rc.1", none, some false⟩]].foldl mergeDependencies [] =
    [⟨"zod", "^3.22.0", some .dependencies, some false⟩, ⟨"react", "18.2.0", none, none⟩] := by
  decide

end Scaffold
