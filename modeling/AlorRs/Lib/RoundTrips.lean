import Mathlib.Data.List.Basic

/-!
# Orders that open and close in turn

In a list of orders each one either opens, when nothing is open, or closes what is open.  `Alternate`
says that every order that stands where one has to close does close (`Closes`), and `openAfter` is what is
left open; both follow a list that grows (`alternate_append`, `openAfter_append`).  Where the list has
breaks (`none`), at which what is open is dropped, `AlternateWithin` says the same of the orders between
them, `leftOpen` is what the last of them leaves open, and `trips` are the pairs of orders that close.
-/

namespace RoundTrips

variable {A : Type*} (Closes : A → A → Prop)

/-- From an entry that is open, if there is one, the orders open and close in turn. -/
def Alternate : Option A → List A → Prop
  | _, [] => True
  | none, entry :: orders => Alternate (some entry) orders
  | some entry, exit :: orders => Closes entry exit ∧ Alternate none orders

/-- The entry that orders leave open. -/
def openAfter : Option A → List A → Option A
  | openEntry, [] => openEntry
  | none, entry :: orders => openAfter (some entry) orders
  | some _, _ :: orders => openAfter none orders

variable {Closes} {openEntry : Option A} {orders orders' : List A}

instance Alternate.instDecidable [DecidableRel Closes] :
    (openEntry : Option A) → (orders : List A) → Decidable (Alternate Closes openEntry orders)
  | none, [] => isTrue trivial
  | some _, [] => isTrue trivial
  | none, entry :: orders => instDecidable (some entry) orders
  | some entry, exit :: orders =>
    have : Decidable (Alternate Closes none orders) := instDecidable none orders
    inferInstanceAs (Decidable (Closes entry exit ∧ Alternate Closes none orders))

theorem openAfter_append :
    openAfter openEntry (orders ++ orders') = openAfter (openAfter openEntry orders) orders' := by
  induction orders generalizing openEntry with
  | nil => rfl
  | cons order orders ih =>
    cases openEntry with
    | none | some => exact ih

/-- More orders alternate after those that alternated so far. -/
theorem alternate_append :
    Alternate Closes openEntry (orders ++ orders') ↔
      Alternate Closes openEntry orders ∧ Alternate Closes (openAfter openEntry orders) orders' := by
  induction orders generalizing openEntry with
  | nil =>
    cases openEntry <;> exact (iff_of_eq (true_and _)).symm
  | cons order orders ih =>
    cases openEntry with
    | none => exact ih
    | some entry => exact (and_congr_right fun _ => ih).trans and_assoc.symm

/-! ### Orders with breaks -/

variable (Closes) in
/-- Between two breaks the orders open and close in turn. -/
def AlternateWithin : Option A → List (Option A) → Prop
  | _, [] => True
  | _, none :: orders => AlternateWithin none orders
  | none, some entry :: orders => AlternateWithin (some entry) orders
  | some entry, some exit :: orders => Closes entry exit ∧ AlternateWithin none orders

/-- The entry that orders with breaks leave open. -/
def leftOpen : Option A → List (Option A) → Option A
  | openEntry, [] => openEntry
  | _, none :: orders => leftOpen none orders
  | none, some entry :: orders => leftOpen (some entry) orders
  | some _, some _ :: orders => leftOpen none orders

/-- The entries that were closed, each with its exit. -/
def trips : Option A → List (Option A) → List (A × A)
  | _, [] => []
  | _, none :: orders => trips none orders
  | none, some entry :: orders => trips (some entry) orders
  | some entry, some exit :: orders => (entry, exit) :: trips none orders

variable {parts parts' : List (Option A)}

theorem leftOpen_append :
    leftOpen openEntry (parts ++ parts') = leftOpen (leftOpen openEntry parts) parts' := by
  induction parts generalizing openEntry with
  | nil => rfl
  | cons part parts ih =>
    cases part with
    | none | some => cases openEntry <;> exact ih

theorem alternateWithin_append :
    AlternateWithin Closes openEntry (parts ++ parts') ↔ AlternateWithin Closes openEntry parts ∧
        AlternateWithin Closes (leftOpen openEntry parts) parts' := by
  induction parts generalizing openEntry with
  | nil =>
    cases openEntry <;> exact (iff_of_eq (true_and _)).symm
  | cons part parts ih =>
    cases part with
    | none => cases openEntry <;> exact ih
    | some order =>
      cases openEntry with
      | none => exact ih
      | some entry => exact (and_congr_right fun _ => ih).trans and_assoc.symm

theorem trips_append :
    trips openEntry (parts ++ parts') =
      trips openEntry parts ++ trips (leftOpen openEntry parts) parts' := by
  induction parts generalizing openEntry with
  | nil => rfl
  | cons part parts ih =>
    cases part with
    | none => cases openEntry <;> exact ih
    | some order =>
      cases openEntry with
      | none => exact ih
      | some entry => exact congrArg _ ih

end RoundTrips
