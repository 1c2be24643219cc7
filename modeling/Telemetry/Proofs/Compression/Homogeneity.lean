import Telemetry.Proofs.Compression.Segmentation

/-!
# The members of a composite are alike

A span that ends is compared with one span only, the one that the buffer holds, and that one changes
as spans are merged into it: it is renamed, it lasts longer, and the way in which its members were
matched may change. So it has to be shown that members which were never compared with each other
agree all the same, and keep to the limits.

What makes it true is that merging leaves alone what members are compared by, as long as it matters.
Kind and destination of the held span stay those of its first member for good; its name stays that
of the first member until a span joins that is only of the same kind, and from then on names are not
compared any more. This change happens once.

## Main definitions

* `FinishedSpan.strategy?`: how the members of a span were matched.
* `FinishedSpan.mergeAll?`: what becomes of a run when its members are merged one after the other.
* `FinishedSpan.Homogeneous`: what the members of a span have in common.

## Main results

* `FinishedSpan.strategyFor_cases`: what is known of two spans that match.
* `FinishedSpan.Homogeneous.absorb`: merging keeps what the members have in common.
* `CompressionBuffer.run_homogeneous`: homogeneity, for all runs.
-/

namespace Telemetry

namespace FinishedSpan

variable {settings : CompressionSettings} {s child : FinishedSpan}
  {strategy : CompressionStrategy} {run : List FinishedSpan}

/-- How the members of a span were matched, if it is a composite. -/
def strategy? (s : FinishedSpan) : Option CompressionStrategy := s.composite.map (·.strategy)

/-- The span with the sibling merged into it, if they match. -/
def merge? (settings : CompressionSettings) (s sibling : FinishedSpan) : Option FinishedSpan :=
  (s.strategyFor settings sibling).map (s.absorb sibling)

/-- What becomes of a run when its members are merged one after the other, if they match. -/
def mergeAll? (settings : CompressionSettings) : List FinishedSpan → Option FinishedSpan
  | [] => none
  | m :: rest => rest.foldlM (merge? settings) m

theorem mergeAll?_append_singleton (h : mergeAll? settings run = some s) (child : FinishedSpan) :
    mergeAll? settings (run ++ [child]) = s.merge? settings child := by
  cases run with
  | nil => cases h
  | cons m rest =>
    have hrest : rest.foldlM (merge? settings) m = some s := h
    simp [mergeAll?, List.foldlM_append, hrest]

theorem eligible_iff : s.eligible = true ↔
    s.leaf = true ∧ s.propagated = false ∧ s.record.outcome = .success ∧
      s.resource.isSome = true := by
  simp [eligible, and_assoc]

theorem isSameKind_iff : s.isSameKind child = true ↔
    s.record.kind = child.record.kind ∧ s.record.subtype = child.record.subtype ∧
      s.resource.isSome = true ∧ s.resource = child.resource := by
  simp [isSameKind, and_assoc]

theorem isExactMatch_iff : s.isExactMatch child = true ↔
    s.isSameKind child = true ∧ s.record.name = child.record.name ∧
      s.record.action = child.record.action := by
  simp [isExactMatch, and_assoc]

/-- **What is known of two spans that match.** They are of one kind. If they match exactly they
agree in everything, the one was no composite of the same kind, and both were short enough;
otherwise they were short enough by the other limit. The duration of a composite is not looked
at. -/
theorem strategyFor_cases (h : s.strategyFor settings child = some strategy) :
    s.isSameKind child = true ∧
    ((strategy = .exactMatch ∧ s.isExactMatch child = true ∧ s.strategy? ≠ some .sameKind ∧
        (s.composite = none → s.record.duration ≤ settings.exactMatchMax) ∧
        child.record.duration ≤ settings.exactMatchMax) ∨
      (strategy = .sameKind ∧
        (s.composite = none → s.record.duration ≤ settings.sameKindMax) ∧
        child.record.duration ≤ settings.sameKindMax)) := by
  cases hc : s.composite with
  | none =>
    simp only [strategyFor, hc, Bool.and_eq_true, decide_eq_true_eq] at h
    split at h
    next hexact =>
      cases h
      refine ⟨(isExactMatch_iff.mp hexact.1.1).1, .inl ⟨rfl, hexact.1.1, ?_, ?_⟩⟩
      · simp [strategy?, hc]
      · exact ⟨fun _ => hexact.1.2, hexact.2⟩
    next =>
      split at h <;> cases h
      next hkind => exact ⟨hkind.1.1, .inr ⟨rfl, fun _ => hkind.1.2, hkind.2⟩⟩
  | some c =>
    simp only [strategyFor, hc, Bool.and_eq_true, decide_eq_true_eq] at h
    split at h
    next hexact =>
      cases h
      refine ⟨(isExactMatch_iff.mp hexact.1.2).1, .inl ⟨rfl, hexact.1.2, ?_, nofun, hexact.2⟩⟩
      simp [strategy?, hc, hexact.1.1]
    next =>
      split at h <;> cases h
      next hkind => exact ⟨hkind.1, .inr ⟨rfl, nofun, hkind.2⟩⟩

@[simp] theorem strategy?_absorb (s child : FinishedSpan) (strategy : CompressionStrategy) :
    (s.absorb child strategy).strategy? = some strategy := rfl

/-- A composite of one kind stays one. -/
theorem eq_sameKind_of_strategyFor (h : s.strategyFor settings child = some strategy)
    (hs : s.strategy? = some .sameKind) : strategy = .sameKind := by
  obtain ⟨-, ⟨-, -, hne, -⟩ | ⟨rfl, -⟩⟩ := strategyFor_cases h
  · exact absurd hs hne
  · rfl

/-- The merged span ends when the later of the two ended. -/
theorem finish_absorb (s child : FinishedSpan) (strategy : CompressionStrategy) :
    (s.absorb child strategy).finish = max s.finish child.finish := by
  have hmax (start d e : Nat) : start + max d (e - start) = max (start + d) e := by omega
  exact hmax _ _ _

/-- What is known of the members of a span: of the span itself if it is no composite. -/
structure Homogeneous (settings : CompressionSettings) (s : FinishedSpan)
    (run : List FinishedSpan) : Prop where
  merged : mergeAll? settings run = some s
  several : s.composite.isSome = true ↔ 2 ≤ run.length
  /-- They are calls that succeeded, that name a destination and that nobody else refers to. -/
  eligible : s.composite.isSome = true → ∀ m ∈ run, m.leaf = true ∧ m.propagated = false ∧
    m.record.outcome = .success ∧ m.resource.isSome = true
  kind : ∀ m ∈ run, m.record.kind = s.record.kind ∧ m.record.subtype = s.record.subtype ∧
    m.resource = s.resource
  /-- The members of an exact composite agree in everything and keep to the limit for that. -/
  exact : s.strategy? = some .exactMatch → ∀ m ∈ run, m.record.name = s.record.name ∧
    m.record.action = s.record.action ∧ m.record.duration ≤ settings.exactMatchMax
  /-- A composite of one kind is named after the destination. -/
  named : s.strategy? = some .sameKind →
    ∃ resource, s.resource = some resource ∧ s.record.name = "Calls to " ++ resource
  short : s.composite.isSome = true → ∀ m ∈ run,
    m.record.duration ≤ settings.exactMatchMax ∨ m.record.duration ≤ settings.sameKindMax
  /-- Once the members up to some place made a composite of one kind, it stays one, and they keep to
  the limit for that from this place on. -/
  widened : ∀ earlier m later u, run = earlier ++ m :: later →
    mergeAll? settings (earlier ++ [m]) = some u → u.strategy? = some .sameKind →
    m.record.duration ≤ settings.sameKindMax ∧ s.strategy? = some .sameKind
  /-- The span ends when the last of them ended. -/
  finish : (∀ m ∈ run, m.finish ≤ s.finish) ∧ ∃ m ∈ run, m.finish = s.finish

theorem homogeneous_singleton (plain : s.composite = none) : s.Homogeneous settings [s] where
  merged := rfl
  several := by simp [plain]
  eligible := by simp [plain]
  kind := by simp
  exact := by simp [strategy?, plain]
  named := by simp [strategy?, plain]
  short := by simp [plain]
  widened := by
    intro earlier m later u hrun hu hkind
    obtain ⟨rfl, rfl, rfl⟩ : earlier = [] ∧ m = s ∧ later = [] := by
      cases earlier <;> simp_all
    obtain rfl : m = u := Option.some.inj hu
    simp [strategy?, plain] at hkind
  finish := by simp

/-- A span that is no composite is its only member. -/
theorem Homogeneous.eq_singleton (h : s.Homogeneous settings run) (plain : s.composite = none) :
    run = [s] := by
  have hlength : ¬ 2 ≤ run.length := by simpa [plain] using h.several
  have hmerged := h.merged
  match run with
  | [] => cases hmerged
  | [m] => rw [Option.some.inj hmerged]
  | _ :: _ :: _ => exact absurd (by simp) hlength

/-- Members match a span that matches the one that they became. -/
theorem Homogeneous.exact_of_strategyFor (h : s.Homogeneous settings run)
    (hstrategy : s.strategyFor settings child = some .exactMatch) :
    ∀ m ∈ run ++ [child], m.record.name = s.record.name ∧ m.record.action = s.record.action ∧
      m.record.duration ≤ settings.exactMatchMax := by
  obtain ⟨-, ⟨-, hexact, hne, hfirst, hlast⟩ | ⟨hkind, -⟩⟩ := strategyFor_cases hstrategy
  · obtain ⟨-, hname, haction⟩ := isExactMatch_iff.mp hexact
    refine List.forall_mem_append.mpr ⟨?_, by simpa using ⟨hname.symm, haction.symm, hlast⟩⟩
    cases hc : s.composite with
    | none =>
      rw [h.eq_singleton hc]
      simpa using hfirst hc
    | some c =>
      refine h.exact ?_
      cases hs : c.strategy <;> simp_all [strategy?]
  · cases hkind

theorem Homogeneous.short_of_strategyFor (h : s.Homogeneous settings run)
    (hstrategy : s.strategyFor settings child = some strategy) : ∀ m ∈ run ++ [child],
      m.record.duration ≤ settings.exactMatchMax ∨ m.record.duration ≤ settings.sameKindMax := by
  obtain ⟨-, hcases⟩ := strategyFor_cases hstrategy
  refine List.forall_mem_append.mpr ⟨?_, ?_⟩
  · cases hc : s.composite with
    | none =>
      rw [h.eq_singleton hc, List.forall_mem_singleton]
      exact hcases.imp (fun hexact => hexact.2.2.2.1 hc) fun hkind => hkind.2.1 hc
    | some c => exact h.short (by simp [hc])
  · rw [List.forall_mem_singleton]
    exact hcases.imp (fun hexact => hexact.2.2.2.2) fun hkind => hkind.2.2

theorem Homogeneous.eligible_of_eligible (h : s.Homogeneous settings run)
    (hs : s.eligible = true) : ∀ m ∈ run, m.eligible = true := by
  cases hc : s.composite with
  | none => simpa [h.eq_singleton hc] using hs
  | some c => exact fun m hm => eligible_iff.mpr (h.eligible (by simp [hc]) m hm)

/-- The place from which on a composite is one of kind is the same after one more span joined, or it
is that of the new span. -/
theorem Homogeneous.widened_absorb (h : s.Homogeneous settings run)
    (hstrategy : s.strategyFor settings child = some strategy) {earlier later : List FinishedSpan}
    {m u : FinishedSpan} (hrun : run ++ [child] = earlier ++ m :: later)
    (hu : mergeAll? settings (earlier ++ [m]) = some u) (hkind : u.strategy? = some .sameKind) :
    m.record.duration ≤ settings.sameKindMax ∧ strategy = .sameKind := by
  rcases List.eq_nil_or_concat later with rfl | ⟨later, last, rfl⟩
  · obtain ⟨rfl, rfl⟩ : run = earlier ∧ child = m := by simpa using List.append_inj' hrun rfl
    obtain rfl : s.absorb child strategy = u := by
      simpa [mergeAll?_append_singleton h.merged, merge?, hstrategy] using hu
    obtain rfl : strategy = .sameKind := by simpa using hkind
    obtain ⟨-, ⟨hne, -⟩ | ⟨-, -, hshort⟩⟩ := strategyFor_cases hstrategy
    · cases hne
    · exact ⟨hshort, rfl⟩
  · have hsplit : run ++ [child] = (earlier ++ m :: later) ++ [last] := by simpa using hrun
    obtain ⟨hbefore, -⟩ := List.append_inj' hsplit rfl
    obtain ⟨hshort, hs⟩ := h.widened earlier m later u hbefore hu hkind
    exact ⟨hshort, eq_sameKind_of_strategyFor hstrategy hs⟩

/-- **Merging keeps what the members have in common.** -/
theorem Homogeneous.absorb (h : s.Homogeneous settings run) (hs : s.eligible = true)
    (hchild : child.eligible = true) (hstrategy : s.strategyFor settings child = some strategy) :
    (s.absorb child strategy).Homogeneous settings (run ++ [child]) := by
  obtain ⟨hkind, -⟩ := strategyFor_cases hstrategy
  obtain ⟨hkinds, hsubtypes, hresource, hresources⟩ := isSameKind_iff.mp hkind
  have hnonempty : run ≠ [] := by
    rintro rfl
    cases h.merged
  refine
    { merged := ?_
      several := ?_
      eligible := fun _ => ?_
      kind := ?_
      exact := fun hexact => ?_
      named := fun hwide => ?_
      short := fun _ => h.short_of_strategyFor hstrategy
      widened := fun earlier m later u hrun hu hwide => ?_
      finish := ?_ }
  · rw [mergeAll?_append_singleton h.merged, merge?, hstrategy, Option.map_some]
  · have hpos : 1 ≤ run.length := List.length_pos_iff.mpr hnonempty
    simpa [FinishedSpan.absorb] using hpos
  · have hall : ∀ m ∈ run ++ [child], m.eligible = true :=
      List.forall_mem_append.mpr ⟨h.eligible_of_eligible hs, by simpa using hchild⟩
    exact fun m hm => eligible_iff.mp (hall m hm)
  · refine List.forall_mem_append.mpr ⟨h.kind, ?_⟩
    simpa using ⟨hkinds.symm, hsubtypes.symm, hresources.symm⟩
  · obtain rfl : strategy = .exactMatch := by simpa using hexact
    exact h.exact_of_strategyFor hstrategy
  · obtain rfl : strategy = .sameKind := by simpa using hwide
    obtain ⟨resource, hsome⟩ := Option.isSome_iff_exists.mp hresource
    exact ⟨resource, hsome, by simp [FinishedSpan.absorb, kindName, hsome]⟩
  · obtain ⟨hshort, rfl⟩ := h.widened_absorb hstrategy hrun hu hwide
    exact ⟨hshort, rfl⟩
  · rw [finish_absorb]
    obtain ⟨hle, m, hm, hlast⟩ := h.finish
    refine ⟨List.forall_mem_append.mpr
      ⟨fun m hm => ?_, List.forall_mem_singleton.mpr (Nat.le_max_right _ _)⟩, ?_⟩
    · exact Nat.le_trans (hle m hm) (Nat.le_max_left _ _)
    · rcases Nat.le_total child.finish s.finish with hlate | hlate
      · exact ⟨m, List.mem_append_left _ hm, by rw [hlast, Nat.max_eq_left hlate]⟩
      · exact ⟨child, by simp, by rw [Nat.max_eq_right hlate]⟩

theorem lastsInMerging_homogeneous (settings : CompressionSettings) :
    LastsInMerging settings (Homogeneous settings) where
  alone := homogeneous_singleton
  absorb := fun h hs _ hchild hstrategy => h.absorb hs hchild hstrategy

theorem LastsInMerging.and {P Q : FinishedSpan → List FinishedSpan → Prop}
    (hP : LastsInMerging settings P) (hQ : LastsInMerging settings Q) :
    LastsInMerging settings fun s run => P s run ∧ Q s run where
  alone := fun plain => ⟨hP.alone plain, hQ.alone plain⟩
  absorb := fun h hs hplain hchild hstrategy =>
    ⟨hP.absorb h.1 hs hplain hchild hstrategy, hQ.absorb h.2 hs hplain hchild hstrategy⟩

end FinishedSpan

namespace CompressionBuffer

variable {settings : CompressionSettings}

/-- What becomes of a composite of one kind that is held is one, whatever happens next. -/
theorem head?_step_of_sameKind {b : CompressionBuffer} (hproper : b.Proper) {s : FinishedSpan}
    (hs : b.slot = some s) (hkind : s.strategy? = some .sameKind) (settings : CompressionSettings)
    (a : Action) :
    (b.step settings a).2.head? = some s ∨
      (b.step settings a).2 = [] ∧ ∃ u, (b.step settings a).1.slot = some u ∧
        u.record.id = s.record.id ∧ u.strategy? = some .sameKind := by
  cases a with
  | close => exact .inl (by simp [step, close, hs])
  | offer child =>
    simp only [step]
    rcases b.offer_cases settings child with
      ⟨hc, -⟩ | heq | ⟨-, heq⟩ | ⟨u, strategy, -, hu, hstrategy, heq⟩
    · cases (hproper.closed hc).symm.trans hs
    · exact .inl (by simp [heq, hs])
    · exact .inl (by simp [heq, hs])
    · obtain rfl : u = s := Option.some.inj (hu.symm.trans hs)
      obtain rfl := FinishedSpan.eq_sameKind_of_strategyFor hstrategy hkind
      exact .inr (by simp [heq, FinishedSpan.absorb, FinishedSpan.strategy?])

/-- **The strategy never narrows.** A composite of one kind that is held comes out next, or is still
held, as one. -/
theorem head?_run_of_sameKind {later : List Action} :
    ∀ {b : CompressionBuffer} {s : FinishedSpan}, b.Proper → b.slot = some s →
      s.strategy? = some .sameKind →
      ∃ u, ((b.run settings later).2 ++ (b.run settings later).1.slot.toList).head? = some u ∧
        u.record.id = s.record.id ∧ u.strategy? = some .sameKind := by
  induction later with
  | nil => exact fun {_ s} _ hs hkind => ⟨s, by simp [run, hs], rfl, hkind⟩
  | cons a rest ih =>
    intro b s hproper hs hkind
    simp only [run]
    rcases head?_step_of_sameKind hproper hs hkind settings a with
      hout | ⟨hout, u, hu, hid, hukind⟩
    · exact ⟨s, by simp [List.head?_append, hout], rfl, hkind⟩
    · obtain ⟨v, hv, hvid, hvkind⟩ := ih (hproper.step settings a) hu hukind
      exact ⟨v, by simpa [hout] using hv, hvid.trans hid, hvkind⟩

/-- **The members of a composite are alike.** What a buffer passed on, followed by what it holds,
stands one by one for consecutive runs of what it was offered. The members of a run of several

* are successful calls to a destination that nobody else refers to, of one kind and to one
  destination;
* agree also in name and action, if they were matched exactly, and keep to the limit for that; the
  span has their name;
* keep to one of the limits otherwise, and to that for one kind from the place on where it was
  needed; the span is named after the destination.

The span ends when the last of them ended. A composite of one kind that is held is never again
matched exactly, whatever happens next; since every state of a buffer is the end of some run from
the empty one, this speaks of all reachable states. -/
theorem run_homogeneous {actions : List Action} {b : CompressionBuffer} {out : List FinishedSpan}
    (hrun : ({} : CompressionBuffer).run settings actions = (b, out))
    (plain : ∀ m ∈ offered actions, m.composite = none) :
    (∃ runs : List (List FinishedSpan), runs.flatten = offered actions ∧
      List.Forall₂ (fun s run => s.StandsFor run ∧ s.Homogeneous settings run)
        (out ++ b.slot.toList) runs) ∧
    (∀ s, b.slot = some s → s.strategy? = some .sameKind → ∀ later, ∃ u,
      ((b.run settings later).2 ++ (b.run settings later).1.slot.toList).head? = some u ∧
        u.record.id = s.record.id ∧ u.strategy? = some .sameKind) := by
  obtain rfl : (({} : CompressionBuffer).run settings actions).1 = b := by rw [hrun]
  obtain rfl : (({} : CompressionBuffer).run settings actions).2 = out := by rw [hrun]
  have hlasts := (FinishedSpan.lastsInMerging_standsFor settings).and
    (FinishedSpan.lastsInMerging_homogeneous settings)
  obtain ⟨runs, hflat, hruns⟩ := exists_runs (b := {}) hlasts proper_empty .nil plain
  have hproper : (({} : CompressionBuffer).run settings actions).1.Proper :=
    proper_empty.run settings
  exact ⟨⟨runs, hflat, hruns.imp fun _ _ h => ⟨h.1.1, h.2⟩⟩,
    fun s hs hkind later => head?_run_of_sameKind hproper hs hkind⟩

/-- Two equal calls make an exact composite, which a third one of the same kind widens; a fourth,
equal to the first, does not narrow it. -/
theorem run_homogeneous_widened :
    let call (name : String) : FinishedSpan :=
      ⟨{ (default : SpanRecord) with name }, true, false, some "db", none⟩
    let calls := [call "get", call "get", call "set", call "get"]
    let result := ({} : CompressionBuffer).run ⟨true, 5, 5⟩ (calls.map .offer)
    result.1.slot.map (fun s => (s.count, s.record.name, s.strategy?)) =
      some (4, "Calls to db", some .sameKind) ∧
    ∃ runs : List (List FinishedSpan), runs.flatten = calls ∧
      List.Forall₂ (fun s run => s.StandsFor run ∧ s.Homogeneous ⟨true, 5, 5⟩ run)
        (result.2 ++ result.1.slot.toList) runs := by
  intro call calls result
  refine ⟨by decide, (run_homogeneous (b := result.1) rfl ?_).1⟩
  simp [offered, calls, call]

end CompressionBuffer

end Telemetry
