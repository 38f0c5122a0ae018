import Scaffold.Merge.Dependencies
import Scaffold.Proofs.Keyed

/-!
What merging leaves of dependencies. Entries are settled by package: of the versions the first of
the highest ones stays, and an entry that is needed at run time makes the package be needed there.
-/

namespace Scaffold

/-! Precedence of versions is total and transitive. -/

instance Version.transCmp_precedence : Std.TransCmp Version.precedence :=
  inferInstanceAs (Std.TransCmp
    (compareLex (compareOn Version.major) <| compareLex (compareOn Version.minor) <|
      compareLex (compareOn Version.patch) (compareOn Version.isRelease)))

namespace Dependency

def Readable (d : Dependency) : Prop :=
  ∃ version, Version.parse d.version = .ok version

def ForRuntime (d : Dependency) : Prop :=
  d.dev = some false

/-- The one of two entries whose version stays. -/
def prevailing (existing incoming : Dependency) : Dependency :=
  if incoming.outranks existing then incoming else existing

theorem forRuntime_atRuntime (d : Dependency) : d.atRuntime.ForRuntime := rfl

theorem atRuntime_atRuntime (d : Dependency) : d.atRuntime.atRuntime = d.atRuntime := by
  unfold atRuntime
  by_cases development : d.kind = some .devDependencies <;> simp [development]

theorem eq_of_atRuntime_eq {a b : Dependency} (same : a.atRuntime = b.atRuntime) :
    a.name = b.name ∧ a.version = b.version := by
  have names := congrArg name same
  have versions := congrArg version same
  exact ⟨names, versions⟩

theorem outranks_congr {a b c d : Dependency} (left : a.version = c.version)
    (right : b.version = d.version) : a.outranks b = c.outranks d := by
  unfold outranks
  rw [left, right]

theorem outranks_iff {candidate current : Dependency} {v w : Version}
    (first : Version.parse candidate.version = .ok v)
    (second : Version.parse current.version = .ok w) :
    candidate.outranks current ↔ v.precedence w = .gt := by
  unfold outranks
  rw [first, second]
  exact beq_iff_eq

theorem prevailing_cases (a b : Dependency) :
    prevailing a b = a ∨ prevailing a b = b := by
  unfold prevailing
  split
  · exact .inr rfl
  · exact .inl rfl

theorem name_prevailing {a b : Dependency} (same : a.name = b.name) :
    (prevailing a b).name = a.name := by
  rcases prevailing_cases a b with h | h
  · rw [h]
  · rw [h, same]

theorem prevailing_assoc {a b c : Dependency} (ha : a.Readable) (hb : b.Readable)
    (hc : c.Readable) :
    prevailing (prevailing a b) c = prevailing a (prevailing b c) := by
  obtain ⟨u, first⟩ := ha
  obtain ⟨v, second⟩ := hb
  obtain ⟨w, third⟩ := hc
  -- Where both or none of the neighbours outranks the one before it, transitivity decides.
  by_cases ba : b.outranks a <;> by_cases cb : c.outranks b
  · have above : c.outranks a := by
      rw [outranks_iff second first] at ba
      rw [outranks_iff third second] at cb
      exact (outranks_iff third first).2 (Std.TransCmp.gt_trans cb ba)
    simp [prevailing, ba, cb, above]
  · simp [prevailing, ba, cb]
  · simp [prevailing, ba, cb]
  · have below : ¬c.outranks a := by
      rw [outranks_iff second first, ← Ordering.isLE_iff_ne_gt] at ba
      rw [outranks_iff third second, ← Ordering.isLE_iff_ne_gt] at cb
      rw [outranks_iff third first, ← Ordering.isLE_iff_ne_gt]
      exact Std.TransCmp.isLE_trans cb ba
    simp [prevailing, ba, cb, below]

theorem atRuntime_prevailing_congr {a b c d : Dependency} (left : a.atRuntime = c.atRuntime)
    (right : b.atRuntime = d.atRuntime) :
    (prevailing a b).atRuntime = (prevailing c d).atRuntime := by
  have versions : b.outranks a = d.outranks c :=
    outranks_congr (eq_of_atRuntime_eq right).2 (eq_of_atRuntime_eq left).2
  unfold prevailing
  rw [versions]
  split
  · exact right
  · exact left

theorem resolve_of_forRuntime {a b : Dependency} (needed : a.ForRuntime ∨ b.ForRuntime) :
    a.resolve b = (prevailing a b).atRuntime :=
  if_pos needed

theorem resolve_of_not_forRuntime {a b : Dependency} (optional : ¬(a.ForRuntime ∨ b.ForRuntime)) :
    a.resolve b = prevailing a b :=
  if_neg optional

theorem atRuntime_resolve (a b : Dependency) :
    (a.resolve b).atRuntime = (prevailing a b).atRuntime := by
  by_cases needed : a.ForRuntime ∨ b.ForRuntime
  · rw [resolve_of_forRuntime needed, atRuntime_atRuntime]
  · rw [resolve_of_not_forRuntime needed]

theorem version_resolve (a b : Dependency) :
    (a.resolve b).version = (prevailing a b).version :=
  (eq_of_atRuntime_eq (atRuntime_resolve a b)).2

theorem forRuntime_resolve (a b : Dependency) :
    (a.resolve b).ForRuntime ↔ a.ForRuntime ∨ b.ForRuntime := by
  by_cases needed : a.ForRuntime ∨ b.ForRuntime
  · rw [resolve_of_forRuntime needed]
    exact iff_of_true (forRuntime_atRuntime _) needed
  · rw [resolve_of_not_forRuntime needed]
    refine iff_of_false (fun runtime => needed ?_) needed
    rcases prevailing_cases a b with h | h
    · rw [h] at runtime
      exact .inl runtime
    · rw [h] at runtime
      exact .inr runtime

theorem keepsName : KeepsKey (·.name) resolve := by
  intro a b same
  exact (eq_of_atRuntime_eq (atRuntime_resolve a b)).1.trans (name_prevailing same)

/-- Entries whose versions can be read settle to the same one, however they are bracketed. -/
theorem associates : AssociatesOn resolve Readable where
  closed := by
    intro a b ha hb
    unfold Readable
    rw [version_resolve]
    rcases prevailing_cases a b with h | h
    · rw [h]
      exact ha
    · rw [h]
      exact hb
  assoc := by
    intro a b c ha hb hc
    -- One entry that is needed at run time makes both sides needed there.
    by_cases needed : a.ForRuntime ∨ b.ForRuntime ∨ c.ForRuntime
    · have left : (a.resolve b).ForRuntime ∨ c.ForRuntime := by
        rw [forRuntime_resolve, or_assoc]
        exact needed
      have right : a.ForRuntime ∨ (b.resolve c).ForRuntime := by
        rw [forRuntime_resolve]
        exact needed
      calc (a.resolve b).resolve c
          = (prevailing (a.resolve b) c).atRuntime := resolve_of_forRuntime left
        _ = (prevailing (prevailing a b) c).atRuntime :=
          atRuntime_prevailing_congr (atRuntime_resolve a b) rfl
        _ = (prevailing a (prevailing b c)).atRuntime := by rw [prevailing_assoc ha hb hc]
        _ = (prevailing a (b.resolve c)).atRuntime :=
          atRuntime_prevailing_congr rfl (atRuntime_resolve b c).symm
        _ = a.resolve (b.resolve c) := (resolve_of_forRuntime right).symm
    · have left : ¬((a.resolve b).ForRuntime ∨ c.ForRuntime) := by
        rw [forRuntime_resolve, or_assoc]
        exact needed
      have right : ¬(a.ForRuntime ∨ (b.resolve c).ForRuntime) := by
        rw [forRuntime_resolve]
        exact needed
      rw [resolve_of_not_forRuntime left, resolve_of_not_forRuntime right,
        resolve_of_not_forRuntime fun h => needed (h.elim .inl fun h => .inr (.inl h)),
        resolve_of_not_forRuntime fun h => needed (.inr h), prevailing_assoc ha hb hc]

theorem insertInto_eq_settleInto (d : Dependency) (ds : List Dependency) :
    d.insertInto ds = settleInto (·.name) resolve d ds := by
  induction ds with
  | nil => rfl
  | cons e ds ih => rw [insertInto, settleInto, ih]

end Dependency

open Dependency

theorem mergeDependencies_eq_settleAll (existing incoming : List Dependency) :
    mergeDependencies existing incoming = settleAll (·.name) resolve existing incoming := by
  induction incoming generalizing existing with
  | nil => rfl
  | cons d incoming ih =>
      rw [settleAll_cons, ← ih, ← insertInto_eq_settleInto]
      rfl

theorem mergeDependencies_append (existing incoming more : List Dependency) :
    mergeDependencies existing (incoming ++ more) =
      mergeDependencies (mergeDependencies existing incoming) more :=
  List.foldl_append

theorem nodup_mergeDependencies {existing : List Dependency} (incoming : List Dependency)
    (distinct : (existing.map (·.name)).Nodup) :
    ((mergeDependencies existing incoming).map (·.name)).Nodup := by
  rw [mergeDependencies_eq_settleAll]
  exact nodup_settleAll keepsName incoming distinct

theorem mergeDependencies_nil_of_nodup {ds : List Dependency}
    (distinct : (ds.map (·.name)).Nodup) : mergeDependencies [] ds = ds := by
  rw [mergeDependencies_eq_settleAll]
  exact settleAll_of_nodup distinct

/-- Every package with more than one entry has versions that can all be read. -/
def VersionsReadable (ds : List Dependency) : Prop :=
  ∀ name, 1 < (ds.filter (·.name = name)).length → ∀ d ∈ ds, d.name = name → d.Readable

theorem mergeDependencies_regroup {ds more : List Dependency}
    (readable : VersionsReadable (ds ++ more)) :
    mergeDependencies (mergeDependencies [] ds) (mergeDependencies [] more) =
      mergeDependencies [] (ds ++ more) := by
  simp only [mergeDependencies_eq_settleAll]
  apply settleAll_settleAll keepsName
  intro name
  rw [List.filter_append]
  apply associates.settled_append
  rw [← List.filter_append]
  intro several d member
  obtain ⟨occurs, named⟩ := List.mem_filter.1 member
  exact readable name several d occurs (of_decide_eq_true named)

-- A version that cannot be read outranks nothing and is outranked by nothing.
example :
    mergeDependencies [⟨"p", "1", none, none⟩]
        [⟨"p", "latest", none, none⟩, ⟨"p", "2", none, none⟩] ≠
      mergeDependencies [⟨"p", "1", none, none⟩]
        (mergeDependencies [⟨"p", "latest", none, none⟩] [⟨"p", "2", none, none⟩]) := by
  decide

end Scaffold
