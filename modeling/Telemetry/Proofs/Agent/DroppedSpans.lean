import Telemetry.Proofs.Agent.TimeSpent
import Telemetry.Proofs.Transaction.Drops

/-!
# The statistics of dropped spans

What is dropped with a destination can be told from the actions of a run, in its order: stand-ins
that end for the first time, and finished spans that are left out. The statistics of a transaction
are those of its drops, however many there are and whenever they come.

Like a ledger a log of drops is no part of the agent. That of a run is the ledger, of which only
what was left out is kept, with the ends of stand-ins in between.

## Main definitions

* `DropLog`, `DropLog.of`.
* `Agent.drops`, `Agent.dropLog`: what is dropped in an action, and in a run.
* `Story.OnlyReleases`: a story in which no stand-in is counted.
* `Agent.Tracks`: one operation, as the log has it.
* `History.Accounts`: every transaction accounts for its drops.

## Main results

* `Agent.perform_tracks`: every operation tracks its drops.
* `History.Accounts.foldl`: the log of a run.
* `Agent.run_tracks_drops`: the statistics of every transaction, after all runs.
-/

namespace Telemetry

/-! ### Logs -/

/-- What is dropped with a destination, oldest first, and by which transaction. -/
abbrev DropLog := List (TransactionRef × DroppedSpanStat)

namespace DropLog

/-- The drops of one transaction. -/
def of (D : DropLog) (t : TransactionRef) : List DroppedSpanStat := (D.filter (·.1 = t)).map (·.2)

/-- The drops of one transaction as a log. -/
def ofDrops (t : TransactionRef) (D : List DroppedSpanStat) : DropLog := D.map (t, ·)

/-- What is left out by a ledger. -/
def ofLedger (L : Ledger) : DropLog := L.filterMap fun x => x.2.drop?.map (x.1, ·)

@[simp] theorem of_append (D D' : DropLog) (t : TransactionRef) :
    of (D ++ D') t = of D t ++ of D' t := by
  simp [of]

theorem of_ofDrops (t u : TransactionRef) (D : List DroppedSpanStat) :
    of (ofDrops t D) u = if t = u then D else [] := by
  by_cases h : t = u <;> simp [of, ofDrops, List.filter_map, Function.comp_def, h]

theorem of_ofLedger (L : Ledger) (t : TransactionRef) :
    of (ofLedger L) t = Journal.drops (L.journal t) := by
  induction L with
  | nil => rfl
  | cons x rest ih =>
    have hsplit : ofLedger (x :: rest) = ofLedger [x] ++ ofLedger rest :=
      List.filterMap_append (l := [x])
    have hjournal : Ledger.journal (x :: rest) t = Ledger.journal [x] t ++ Ledger.journal rest t :=
      Ledger.journal_append [x] rest t
    rw [hsplit, of_append, ih, hjournal, Journal.drops_append]
    congr 1
    cases hdrop : x.2.drop? <;> by_cases ht : x.1 = t <;>
      simp [ofLedger, of, Ledger.journal, Journal.drops, hdrop, ht]

end DropLog

namespace Agent

/-- What is dropped in an action: a stand-in that ends, or what is left out. -/
def drops (a : Agent) : Action → DropLog
  | .endSpan (.standIn t i) default =>
    .ofDrops t ((a.transaction? t).bind (·.dropOfStandIn? i default a.now)).toList
  | act => .ofLedger (a.releases act)

/-- What is dropped in a run. -/
def dropLog (a : Agent) : List Action → DropLog
  | [] => []
  | act :: rest => a.drops act ++ (a.perform act).dropLog rest

end Agent

/-! ### Stories without stand-ins -/

namespace Transaction

variable {t : Transaction} {i : Nat} {default : Outcome} {now : Instant} {frames : List Frame}
  {result name : Option String}

theorem untracked_chronicleOfSpan (d : Duration) :
    .tracked d ∉ t.chronicleOfSpan i default now frames := by
  unfold chronicleOfSpan
  split
  · exact List.not_mem_nil
  · simp [Chronicle.leaving]

theorem untracked_chronicleAtEnd (d : Duration) :
    .tracked d ∉ t.chronicleAtEnd result name now := by
  unfold chronicleAtEnd
  split
  · exact List.not_mem_nil
  · simp [Chronicle.leaving]

end Transaction

namespace Story

/-- No stand-in is counted in the story, and what leaves the buffers is in the ledger. -/
structure OnlyReleases (S : Story) (L : Ledger) : Prop where
  untracked : ∀ t d, .tracked d ∉ S.of t
  journal : ∀ t, (S.of t).journal = L.journal t

theorem onlyReleases_of_nothing {S : Story} (h : ∀ t, S.of t = []) : OnlyReleases S [] where
  untracked := fun t d => by simp [h t]
  journal := fun t => by rw [h t]; rfl

theorem onlyReleases_ofChronicle {C : Chronicle} (huntracked : ∀ d, .tracked d ∉ C)
    (t : TransactionRef) : OnlyReleases (ofChronicle t C) (.ofJournal t C.journal) where
  untracked := fun u d => by
    rw [of_ofChronicle]
    split
    · exact huntracked d
    · exact List.not_mem_nil
  journal := fun u => by
    rw [of_ofChronicle, Ledger.journal_ofJournal]
    split <;> rfl

end Story

namespace Agent

variable {a a' : Agent} {t : TransactionRef} {tx : Transaction} {actions : List Action}

/-- A stand-in is counted only when one ends. -/
theorem onlyReleases_happenings (a : Agent) {act : Action}
    (hact : ∀ t i default, act ≠ .endSpan (.standIn t i) default) :
    (a.happenings act).OnlyReleases (a.releases act) := by
  cases act with
  | finishTransaction t result name =>
    cases htx : a.transaction? t with
    | none =>
      simp only [happenings, releases, htx]
      exact Story.onlyReleases_of_nothing fun _ => rfl
    | some tx =>
      simp only [happenings, releases, htx]
      rw [← Transaction.journal_chronicleAtEnd]
      exact Story.onlyReleases_ofChronicle Transaction.untracked_chronicleAtEnd t
  | endSpan s default =>
    cases s with
    | standIn t i => exact absurd rfl (hact t i default)
    | detached => exact Story.onlyReleases_of_nothing fun _ => rfl
    | recording t i =>
      cases htx : a.transaction? t with
      | none =>
        simp only [happenings, releases, htx]
        exact Story.onlyReleases_of_nothing fun _ => rfl
      | some tx =>
        simp only [happenings, releases, htx]
        rw [← Transaction.journal_chronicleOfSpan]
        exact Story.onlyReleases_ofChronicle Transaction.untracked_chronicleOfSpan t
  | advance | moveTo | updateConfig | switchThread | setTransaction | setSpan | forceFlush
  | attach | dropGuard | beginTransaction | changeTransaction | ensureParentId | beginSpan
  | changeSpan | outboundOfSpan | captureError | captureMessage | shutdown =>
    exact Story.onlyReleases_of_nothing fun _ => rfl

/-! ### One operation -/

/-- One operation, as the ledger and the log have it. -/
structure Tracks (a : Agent) (L : Ledger) (D : DropLog) (a' : Agent) : Prop where
  old : ∀ {t tx}, a.transaction? t = some tx → tx.RefusedOnly → ∀ tx' ∈ a'.transaction? t,
    tx'.overflowed = false → tx.Tracks (L.journal t) (D.of t) tx'
  new : ∀ {t}, a.transaction? t = none → D.of t = []

theorem drops_of_not_standIn (a : Agent) {act : Action}
    (hact : ∀ t i default, act ≠ .endSpan (.standIn t i) default) :
    a.drops act = .ofLedger (a.releases act) := by
  unfold drops
  split
  · rename_i t i default
    exact absurd rfl (hact t i default)
  · rfl

theorem tracks_endStandIn (t : TransactionRef) (i : Nat) (default : Outcome) :
    Tracks a [] (a.drops (.endSpan (.standIn t i) default)) (a.endSpan (.standIn t i) default) where
  old := by
    intro u tx htx hrefused tx' htx' _
    rw [transaction?, endSpan, modifyTransaction, Array.getElem?_modify, ← transaction?, htx]
      at htx'
    rw [drops, DropLog.of_ofDrops]
    by_cases htu : t = u
    · subst htu
      rw [if_pos rfl] at htx'
      obtain rfl := Option.some.inj htx'
      rw [if_pos rfl, htx]
      exact Transaction.tracks_endStandIn hrefused
    · rw [if_neg htu] at htx'
      obtain rfl := Option.some.inj htx'
      rw [if_neg htu]
      exact ⟨rfl, le_rfl, hrefused⟩
  new := by
    intro u hnone
    rw [drops, DropLog.of_ofDrops]
    split
    · rename_i htu
      rw [htu, hnone]
      rfl
    · rfl

/-- **Every operation tracks its drops.** -/
theorem perform_tracks (a : Agent) (act : Action) :
    Tracks a (a.releases act) (a.drops act) (a.perform act) := by
  by_cases hact : ∀ t i default, act ≠ .endSpan (.standIn t i) default
  · have honly := a.onlyReleases_happenings hact
    rw [a.drops_of_not_standIn hact]
    constructor
    · intro t tx htx hrefused tx' htx' hov
      obtain ⟨tx'', htx'', htold⟩ := (a.perform_tells act).old htx
      obtain rfl := Option.some.inj (htx''.symm.trans htx')
      rw [DropLog.of_ofLedger, ← honly.journal]
      exact htold.tracks hov hrefused (honly.untracked t)
    · intro t hnone
      rw [DropLog.of_ofLedger, ((a.perform_moves act).new hnone).1]
      rfl
  · push Not at hact
    obtain ⟨t, i, default, rfl⟩ := hact
    exact tracks_endStandIn t i default

end Agent

/-! ### Runs -/

namespace History

variable {h : History} {D : DropLog} {act : Action} {actions : List Action}

/-- Every transaction accounts for its drops, and what was not begun has dropped nothing. -/
structure Accounts (h : History) (D : DropLog) : Prop where
  known : ∀ {t tx}, h.agent.transaction? t = some tx → tx.Accounts (h.ledger.journal t) (D.of t)
  unknown : ∀ {t}, h.agent.transaction? t = none → h.ledger.journal t = [] ∧ D.of t = []

theorem Accounts.step (hacc : h.Accounts D) (hov : (h.step act).agent.overflowed = false) :
    (h.step act).Accounts (D ++ h.agent.drops act) := by
  have hmoves := h.agent.perform_moves act
  have htracks := h.agent.perform_tracks act
  constructor
  · intro t tx' htx'
    rw [History.step, Ledger.journal_append, DropLog.of_append]
    cases htx : h.agent.transaction? t with
    | none =>
      obtain ⟨hjournal, hdrops⟩ := hacc.unknown htx
      obtain ⟨hnothing, hnew⟩ := hmoves.new htx
      rw [hjournal, hdrops, hnothing, htracks.new htx]
      exact Transaction.accounts_of_isNew (hnew tx' htx')
    | some tx =>
      have hbefore := hacc.known htx
      exact hbefore.step (htracks.old htx hbefore.refusedOnly tx' htx'
        (Agent.overflowed_eq_false_iff.mp hov htx'))
  · intro t hnone
    rw [History.step, Ledger.journal_append, DropLog.of_append]
    cases htx : h.agent.transaction? t with
    | none =>
      obtain ⟨hjournal, hdrops⟩ := hacc.unknown htx
      rw [hjournal, hdrops, (hmoves.new htx).1, htracks.new htx]
      exact ⟨rfl, rfl⟩
    | some tx =>
      obtain ⟨tx', htx', -⟩ := hmoves.old htx
      cases htx'.symm.trans hnone

/-- **The log of a run.** -/
theorem Accounts.foldl (hacc : h.Accounts D)
    (hov : (actions.foldl History.step h).agent.overflowed = false) :
    (actions.foldl History.step h).Accounts (D ++ h.agent.dropLog actions) := by
  induction actions generalizing h D with
  | nil => simpa [Agent.dropLog] using hacc
  | cons act rest ih =>
    rw [Agent.dropLog, ← List.append_assoc]
    exact ih (hacc.step (overflowed_of_foldl hov)) hov

end History

namespace Agent

variable {a : Agent} {actions : List Action}

/-- **The statistics of dropped spans are exact.** Let any operations happen to an agent that has
not begun a transaction yet, and let no duration overflow. The log tells which spans a transaction
has dropped with a destination: the stand-ins that were refused for its budget, each as it ended for
the first time, for one span and with its duration; and the finished spans that were left out as too
short, for as many spans as they are made of and with their time together. Then

* the keys of the statistics are the first ones of the log, in the order in which they occurred, as
  many as there is room for;
* no key has two entries;
* an entry has the number of spans, and the time, of everything in the log that has its key, also
  after there was no more room;
* all entries together count no more spans than the transaction has dropped. -/
theorem run_tracks_drops (hnone : a.transactions = #[])
    (hov : (a.run actions).agent.overflowed = false) :
    ∀ t tx, (a.run actions).agent.transaction? t = some tx →
      let D := (a.dropLog actions).of t
      DroppedStats.keys tx.stats = (DroppedStats.keys D).eraseDups.take DroppedStats.capacity ∧
      (DroppedStats.keys tx.stats).Nodup ∧
      (∀ e ∈ tx.stats,
        e.count = DroppedStats.countOf D e.key ∧ e.sum = DroppedStats.sumOf D e.key) ∧
      (tx.stats.map (·.count)).sum ≤ tx.spanCount.dropped := by
  intro t tx htx D
  have hinit : History.Accounts ⟨a, []⟩ [] :=
    { known := fun {t tx} htx => by simp [transaction?, hnone] at htx
      unknown := fun _ => ⟨rfl, rfl⟩ }
  have haccounts : tx.Accounts ((a.run actions).ledger.journal t) D :=
    (hinit.foldl hov).known htx
  have hconserved := (run_keeps Transaction.isInvariant_conserved hnone hov).known htx
  refine ⟨?_, ?_, ?_, haccounts.sum_count_le hconserved⟩ <;> rw [haccounts.stats]
  · exact DroppedStats.keys_ofDrops D
  · exact DroppedStats.nodup_keys_ofDrops D
  · exact DroppedStats.entry_ofDrops D

/-- The refused call ends once more. -/
def endedTwice : List Action := endedCalls ++ [.endSpan (.standIn 0 0) .failure]

/-- A short call was left out, and a refused one is counted when it ends for the first time. -/
theorem run_tracks_drops_endedTwice :
    ((inMemory.dropLog endedTwice).of 0).map (fun d => (d.key, d.count, d.sum)) =
        [(("cache", .success), 1, 1), (("db", .success), 1, 5)] ∧
    ((inMemory.run endedTwice).agent.transaction? 0).map (·.spanCount.dropped) = some 2 ∧
    (inMemory.run endedTwice).agent.overflowed = false ∧
    ∀ tx, (inMemory.run endedTwice).agent.transaction? 0 = some tx →
      (DroppedStats.keys tx.stats).Nodup ∧ (tx.stats.map (·.count)).sum ≤ tx.spanCount.dropped := by
  have hov : (inMemory.run endedTwice).agent.overflowed = false := by decide +kernel
  refine ⟨by decide +kernel, by decide +kernel, hov, fun tx htx => ?_⟩
  obtain ⟨-, hnodup, -, hcount⟩ := run_tracks_drops rfl hov 0 tx htx
  exact ⟨hnodup, hcount⟩

end Agent

end Telemetry
