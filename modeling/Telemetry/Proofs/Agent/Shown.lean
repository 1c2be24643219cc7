import Telemetry.Proofs.Agent.Moves
import Telemetry.Proofs.Transaction.Unsampled

/-!
# What shows of an agent

Of a transaction that is not sampled some things must not show: its stand-ins, its context and its
labels, and which of its spans is current. What is left of an agent without them is an agent again.
An operation does not show if it leaves that as it was; and an operation that shows must come to the
same whether or not the rest is there.

## Main definitions

* `Agent.shown`: the agent without what a transaction keeps to itself.

## Main results

* `Agent.shown_modifyTransaction`, `Agent.shown_withContexts`: what does not show.
* `Agent.shown_modifyTransaction_shown`: what shows does not depend on the rest.
-/

namespace Telemetry

/-! ### Options and arrays -/

theorem filter_filter_of_imp {α : Type} {p q : α → Bool} (h : ∀ x, q x = true → p x = true)
    (o : Option α) : (o.filter p).filter q = o.filter q := by
  cases o with
  | none => rfl
  | some x =>
    cases hq : q x with
    | false => cases hp : p x <;> simp [Option.filter, hp, hq]
    | true => simp [Option.filter, h x hq, hq]

theorem modify_modify {α : Type} (as : Array α) (i : Nat) (f g : α → α) :
    (as.modify i f).modify i g = as.modify i (fun x => g (f x)) := by
  apply Array.ext_getElem?
  intro j
  simp only [Array.getElem?_modify]
  split <;> simp [Option.map_map, Function.comp_def]

theorem modify_congr {α : Type} {as : Array α} {i : Nat} {f g : α → α}
    (h : ∀ x, as[i]? = some x → f x = g x) : as.modify i f = as.modify i g := by
  apply Array.ext_getElem?
  intro j
  simp only [Array.getElem?_modify]
  split
  · subst j
    cases hx : as[i]? with
    | none => rfl
    | some x => exact congrArg some (h x hx)
  · rfl

namespace Agent

variable {a : Agent} {t u : TransactionRef} {tx : Transaction}

/-- The agent without notices, without what a transaction keeps to itself, and with nothing current
but the current transaction. -/
def shown (a : Agent) (t : TransactionRef) : Agent :=
  { a with
    transactions := a.transactions.modify t Transaction.shown
    contexts := ⟨⟨a.currentTransaction, none⟩, #[]⟩
    notices := #[] }

/-! ### Notices and the queue -/

@[simp] theorem shown_note (a : Agent) (t : TransactionRef) (n : Notice) :
    (a.note n).shown t = a.shown t := rfl

@[simp] theorem shown_noteAll (a : Agent) (t : TransactionRef) (ns : List Notice) :
    (a.noteAll ns).shown t = a.shown t := by
  obtain ⟨notices, heq⟩ := a.noteAll_eq ns
  rw [heq]
  rfl

theorem shown_enqueue (a : Agent) (t : TransactionRef) (e : Event) (flush : Bool) :
    (a.enqueue e flush).shown t = { a.shown t with queue := (a.queue.put e flush).1 } :=
  shown_noteAll { a with queue := (a.queue.put e flush).1 } t _

/-! ### What is current -/

theorem hasEnded_eq (a : Agent) (u : TransactionRef) :
    a.hasEnded u = ((a.transaction? u).map (·.ended)).getD false := by
  unfold hasEnded
  cases a.transaction? u <;> rfl

theorem transaction?_shown (a : Agent) (t : TransactionRef) :
    (a.shown t).transaction? t = (a.transaction? t).map Transaction.shown := by
  rw [transaction?, shown, Array.getElem?_modify, if_pos rfl, ← transaction?]

theorem transaction?_shown_of (htx : a.transaction? t = some tx) :
    (a.shown t).transaction? t = some tx.shown := by
  rw [transaction?_shown, htx, Option.map_some]

theorem hasEnded_modifyTransaction (a : Agent) (t u : TransactionRef)
    (f : Transaction → Transaction) : (a.modifyTransaction t f).hasEnded u =
      if t = u then ((a.transaction? t).map fun tx => (f tx).ended).getD false
      else a.hasEnded u := by
  rw [hasEnded_eq, hasEnded_eq, transaction?, modifyTransaction, Array.getElem?_modify]
  split
  · subst u
    rw [Option.map_map]
    rfl
  · rfl

theorem hasEnded_modifyTransaction_eq {f : Transaction → Transaction}
    (hf : ∀ tx, a.transaction? t = some tx → (f tx).ended = tx.ended) :
    (a.modifyTransaction t f).hasEnded = a.hasEnded := by
  funext u
  rw [hasEnded_modifyTransaction]
  split
  · subst u
    rw [hasEnded_eq]
    cases htx : a.transaction? t with
    | none => rfl
    | some tx => exact hf tx htx
  · rfl

theorem transactionOf_congr {b : Agent} (h : b.hasEnded = a.hasEnded) :
    b.transactionOf = a.transactionOf := by
  funext c
  simp only [transactionOf, h]

@[simp] theorem hasEnded_shown (a : Agent) (t : TransactionRef) :
    (a.shown t).hasEnded = a.hasEnded :=
  hasEnded_modifyTransaction_eq (a := a) fun _ _ => rfl

/-- What is current among what shows, when more transactions have ended. -/
theorem transactionOf_context_shown {b : Agent} (t : TransactionRef)
    (h : ∀ u, a.hasEnded u = true → b.hasEnded u = true) :
    b.transactionOf (a.shown t).context = b.transactionOf a.context := by
  have hlive : ∀ u, (!b.hasEnded u) = true → (!a.hasEnded u) = true := by
    intro u hu
    cases hended : a.hasEnded u with
    | false => rfl
    | true => simp [h u hended] at hu
  exact filter_filter_of_imp hlive a.context.transaction

@[simp] theorem currentSpan_shown (a : Agent) (t : TransactionRef) :
    (a.shown t).currentSpan = none := by
  unfold currentSpan spanOf
  split
  · split <;> rfl
  · rfl

@[simp] theorem currentTransaction_shown (a : Agent) (t : TransactionRef) :
    (a.shown t).currentTransaction = a.currentTransaction := by
  rw [currentTransaction, transactionOf_congr (hasEnded_shown a t)]
  exact transactionOf_context_shown t fun _ h => h

theorem shown_withContexts {s : ContextStack}
    (h : a.transactionOf s.current = a.currentTransaction) :
    ({ a with contexts := s } : Agent).shown t = a.shown t := by
  show ({ a.shown t with contexts := ⟨⟨a.transactionOf s.current, none⟩, #[]⟩ } : Agent) = _
  rw [h]
  rfl

/-! ### Transactions -/

theorem shown_shown (a : Agent) (t : TransactionRef) : (a.shown t).shown t = a.shown t := by
  have htransactions : (a.transactions.modify t Transaction.shown).modify t Transaction.shown =
      a.transactions.modify t Transaction.shown := modify_modify a.transactions t _ _
  show ({ a with
    transactions := (a.transactions.modify t Transaction.shown).modify t Transaction.shown
    contexts := ⟨⟨(a.shown t).currentTransaction, none⟩, #[]⟩
    notices := #[] } : Agent) = _
  rw [htransactions, currentTransaction_shown]
  rfl

/-- **A change that shows** comes to the same when the rest is not there. -/
theorem shown_modifyTransaction_shown {f g : Transaction → Transaction}
    (hended : ∀ tx, a.transaction? t = some tx → tx.ended = true → (g tx).ended = true)
    (hfg : ∀ tx, a.transaction? t = some tx → (f tx.shown).shown = (g tx).shown) :
    ((a.shown t).modifyTransaction t f).shown t = (a.modifyTransaction t g).shown t := by
  have htransactions : ((a.transactions.modify t Transaction.shown).modify t f).modify t
      Transaction.shown = (a.transactions.modify t g).modify t Transaction.shown := by
    rw [modify_modify, modify_modify, modify_modify]
    exact modify_congr hfg
  have hsame :
      ((a.shown t).modifyTransaction t f).hasEnded = (a.modifyTransaction t g).hasEnded := by
    funext u
    rw [hasEnded_modifyTransaction, hasEnded_modifyTransaction, hasEnded_shown, transaction?_shown,
      Option.map_map]
    cases htx : a.transaction? t with
    | none => rfl
    | some tx =>
      have hended' : (f tx.shown).ended = (g tx).ended := by
        rw [← Transaction.ended_shown, hfg tx htx, Transaction.ended_shown]
      simp only [Option.map_some, Function.comp_apply, hended']
  have hlater : ∀ u, a.hasEnded u = true → (a.modifyTransaction t g).hasEnded u = true := by
    intro u hu
    rw [hasEnded_modifyTransaction]
    split
    · subst u
      rw [hasEnded_eq] at hu
      cases htx : a.transaction? t with
      | none => simp [htx] at hu
      | some tx => exact hended tx htx (by simpa [htx] using hu)
    · exact hu
  have hcurrent : ((a.shown t).modifyTransaction t f).currentTransaction =
      (a.modifyTransaction t g).currentTransaction := by
    rw [currentTransaction, transactionOf_congr hsame]
    exact transactionOf_context_shown t hlater
  show ({ a with
    transactions := ((a.transactions.modify t Transaction.shown).modify t f).modify t
      Transaction.shown
    contexts := ⟨⟨((a.shown t).modifyTransaction t f).currentTransaction, none⟩, #[]⟩
    notices := #[] } : Agent) = _
  rw [htransactions, hcurrent]
  rfl

/-- **A change to what the transaction keeps to itself** does not show. -/
theorem shown_modifyTransaction {f : Transaction → Transaction}
    (hf : ∀ tx, a.transaction? t = some tx → (f tx).shown = tx.shown) :
    (a.modifyTransaction t f).shown t = a.shown t := by
  have hended : ∀ tx, a.transaction? t = some tx → tx.ended = true → (f tx).ended = true := by
    intro tx htx h
    rwa [← Transaction.ended_shown, hf tx htx]
  have hid : (a.shown t).transactions.modify t id = (a.shown t).transactions := by
    apply Array.ext_getElem?
    intro j
    simp [Array.getElem?_modify]
  rw [← shown_modifyTransaction_shown (f := id) hended fun tx htx => (hf tx htx).symm,
    modifyTransaction, hid]
  exact shown_shown a t

end Agent

end Telemetry
