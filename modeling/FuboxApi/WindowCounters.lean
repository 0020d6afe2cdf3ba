import Mathlib.Algebra.BigOperators.Group.List.Basic
import Mathlib.Algebra.Order.Monoid.Defs

/-!
# Counters of one window

A limit on the amount admitted in each window, kept by one counter that knows one window. It is kept
as long as no request is of an earlier window than the counter.
-/

/-- What was used in the window that the counter is for. -/
structure WindowCounter (Window Amount : Type) where
  window : Window
  used : Amount

namespace WindowCounter

section

variable {Window Amount : Type} [DecidableEq Window] [Add Amount]

/-- What is used with one more amount. -/
def total (counter : WindowCounter Window Amount) (window : Window) (amount : Amount) : Amount :=
  if counter.window = window then counter.used + amount else amount

/-- The counter after an amount that is within the limit. -/
def acquire [LE Amount] [DecidableLE Amount] (limit : Amount) (window : Window) (amount : Amount)
    (counter : WindowCounter Window Amount) : Option (WindowCounter Window Amount) :=
  if counter.total window amount ≤ limit then some ⟨window, counter.total window amount⟩ else none

end

variable {Window Amount : Type} [LinearOrder Window] [AddCommMonoid Amount]

/-- What the admitted requests, each with its window and its amount, have in one
window. -/
def admittedIn (log : List (Window × Amount)) (window : Window) : Amount :=
  ((log.filter fun entry => entry.1 = window).map Prod.snd).sum

theorem admittedIn_cons_self (log : List (Window × Amount)) (window : Window) (amount : Amount) :
    admittedIn ((window, amount) :: log) window = amount + admittedIn log window := by
  simp [admittedIn]

theorem admittedIn_cons_ne {log : List (Window × Amount)} {window other : Window} {amount : Amount}
    (distinct : window ≠ other) :
    admittedIn ((window, amount) :: log) other = admittedIn log other := by
  simp [admittedIn, distinct]

theorem admittedIn_eq_zero {log : List (Window × Amount)} {window : Window}
    (absent : ∀ entry ∈ log, entry.1 ≠ window) : admittedIn log window = 0 := by
  have noEntry : log.filter (fun entry => entry.1 = window) = [] := by
    simpa [List.filter_eq_nil_iff] using absent
  simp [admittedIn, noEntry]

variable [LinearOrder Amount] {limit amount : Amount} {window : Window}
  {counter next : WindowCounter Window Amount} {log : List (Window × Amount)}

/-- The counter is for the last window of the log and has at least what was
admitted in it, and no window has more than the limit. -/
structure Accounts (limit : Amount) (counter : WindowCounter Window Amount)
    (log : List (Window × Amount)) : Prop where
  window_le : ∀ entry ∈ log, entry.1 ≤ counter.window
  counted : admittedIn log counter.window ≤ counter.used
  bounded : ∀ window, admittedIn log window ≤ limit

theorem Accounts.nil (usedNonneg : 0 ≤ counter.used) (limitNonneg : 0 ≤ limit) :
    Accounts limit counter [] where
  window_le _ member := by cases member
  counted := usedNonneg
  bounded _ := limitNonneg

theorem Accounts.admitted_le_total [IsOrderedAddMonoid Amount]
    (accounts : Accounts limit counter log) (inOrder : counter.window ≤ window) (amount : Amount) :
    admittedIn ((window, amount) :: log) window ≤ counter.total window amount := by
  rw [admittedIn_cons_self]
  rcases inOrder.eq_or_lt with same | later
  · subst same
    rw [total, if_pos rfl, add_comm]
    exact add_le_add_left accounts.counted amount
  · -- a later window than every one of the log: nothing was admitted in it
    have nothing : admittedIn log window = 0 := admittedIn_eq_zero fun entry member =>
        ((accounts.window_le entry member).trans_lt later).ne
    rw [nothing, add_zero, total, if_neg later.ne]

theorem Accounts.acquire [IsOrderedAddMonoid Amount] (accounts : Accounts limit counter log)
    (inOrder : counter.window ≤ window)
    (acquired : counter.acquire limit window amount = some next) :
    Accounts limit next ((window, amount) :: log) := by
  unfold WindowCounter.acquire at acquired
  split at acquired
  · next within =>
    cases acquired
    have admitted := accounts.admitted_le_total inOrder amount
    refine ⟨?_, admitted, ?_⟩
    · intro entry member
      rcases List.mem_cons.mp member with rfl | earlier
      · exact le_rfl
      · exact (accounts.window_le entry earlier).trans inOrder
    · intro other
      by_cases same : window = other
      · subst same
        exact admitted.trans within
      · rw [admittedIn_cons_ne same]
        exact accounts.bounded other
  · cases acquired

end WindowCounter
