import LddLearn.Chardev.Device

/-!
# Reads into memory that faults

`device_read` says of `bytes_read` that it counts the bytes actually written to the user
buffer. It advances `msg_ptr` and counts before it can know: the answer of `put_user` is
dropped, and a byte that could not be stored is counted, passed over and never delivered.
-/

set_option autoImplicit false

namespace LddLearn.Chardev
open LddLearn.Library LddLearn.Library.Run LddLearn.Library.Copy

variable {Process : Type}

/-! ## Property and condition -/

def Callback.IsRead : Callback Process → Prop
  | .read _ _ _ _ => True
  | _ => False

/-- What has been delivered, and what `msg_ptr` stands at, are the text. -/
def AtText (text : List Byte) (r : RunState Process) : Prop :=
  ∃ position rest, r.dev.msgPtr = some position ∧ CString.StringAt 0 r.dev.mem position rest ∧
    r.delivered ++ rest = text

/-- A read into memory that can be written would go on with the rest of the text, as far as
it asks for. -/
def NothingLost (text : List Byte) (r : RunState Process) : Prop :=
  ∃ rest, r.delivered ++ rest = text ∧ ∀ size buffer, ∃ ret dev,
    deviceRead (fun _ => false) r.dev size buffer =
      some (ret, storesFrom buffer (rest.take size), dev)

/-- A read returns how many bytes it has stored, `msg_ptr` has moved by as many, and what it has
not delivered is delivered later. -/
def ReadSound (text : List Byte) (r : RunState Process) : Callback Process → Prop
  | .read _ size buffer faults => ∃ stores dev,
      deviceRead faults r.dev size buffer = some ((stores.length : Int), stores, dev) ∧
      dev.msgPtr = r.dev.msgPtr.map (· + stores.length) ∧
      NothingLost text { r with dev, delivered := r.delivered ++ stores.map (·.2) }
  | _ => True

/-- No address that a byte of the text is meant for faults. -/
def StoresAll (r : RunState Process) : Callback Process → Prop
  | .read _ size buffer faults => ∀ position ∈ r.dev.msgPtr, ∀ i < size,
      (∀ j ≤ i, r.dev.mem (position + j) ≠ 0) → faults (buffer + i) = false
  | _ => True

/-! ## One read -/

section Read
variable {r : RunState Process} {text rest : List Byte} {position size buffer : Nat}
  {faults : Nat → Bool} {process : Process}

theorem AtText.nothingLost (before : AtText text r) : NothingLost text r := by
  obtain ⟨position, rest, pointer, string, whole⟩ := before
  refine ⟨rest, whole, ?_⟩
  intro size buffer
  have outcome : deviceRead (fun _ => false) r.dev size buffer = _ :=
    deviceRead_text pointer string size buffer
  rw [copyOut_writable] at outcome
  exact ⟨_, _, outcome⟩

theorem storesAll_iff (pointer : r.dev.msgPtr = some position)
    (string : CString.StringAt 0 r.dev.mem position rest) :
    StoresAll r (.read process size buffer faults) ↔
      ∀ i < (rest.take size).length, faults (buffer + i) = false := by
  have inside (i : Nat) : i < (rest.take size).length ↔
      i < size ∧ ∀ j ≤ i, r.dev.mem (position + j) ≠ 0 := by
    rw [string.within_iff, List.length_take]
    omega
  constructor
  · intro stores i within
    obtain ⟨asked, clean⟩ := (inside i).mp within
    exact stores position pointer i asked clean
  · intro clear other pointer' i asked clean
    obtain rfl : position = other := Option.some.inj (pointer.symm.trans pointer')
    exact clear i ((inside i).mpr ⟨asked, clean⟩)

/-- The world after a read that stored all it passed over. -/
theorem AtText.read (string : CString.StringAt 0 r.dev.mem position rest) (whole : r.delivered ++ rest = text)
    (clear : ∀ i < (rest.take size).length, faults (buffer + i) = false) :
    AtText text { r with
      dev := { r.dev with msgPtr := some (position + min size rest.length) }
      delivered := r.delivered ++ (copyOut faults buffer (rest.take size)).map (·.2) } := by
  refine ⟨_, rest.drop (min size rest.length), rfl, string.drop (Nat.min_le_right _ _), ?_⟩
  rw [copyOut_clear clear, List.append_assoc]
  have split : rest.take size ++ rest.drop (min size rest.length) = rest := by
    rw [List.take_eq_take_min, List.take_append_drop]
  rw [split, whole]

end Read

/-! ## Runs of reads -/

section Runs
variable {increment : Int → Int} {r r' : RunState Process} {text : List Byte}
  {reads : List (Callback Process)}

theorem readSound_iff (c : Callback Process) (before : AtText text r) :
    ReadSound text r c ↔ StoresAll r c := by
  cases c with
  | read process size buffer faults =>
    obtain ⟨position, rest, pointer, string, whole⟩ := before
    have outcome : deviceRead faults r.dev size buffer = _ := deviceRead_text pointer string size buffer
    rw [storesAll_iff pointer string]
    constructor
    · rintro ⟨stores, dev, sound, _⟩
      have same := Option.some.inj (outcome.symm.trans sound)
      obtain ⟨count, result⟩ := Prod.mk.inj same
      obtain rfl := (Prod.mk.inj result).1
      rw [← copyOut_length_eq_iff, List.length_take]
      omega
    · intro clear
      have stored := (copyOut_length_eq_iff buffer (rest.take size)).mpr clear
      rw [List.length_take] at stored
      refine ⟨copyOut faults buffer (rest.take size), _, ?_, ?_,
        (AtText.read string whole clear).nothingLost⟩
      · rw [outcome, stored]
      · rw [pointer, stored]
        rfl
  | «open» process moduleGet => exact Iff.rfl
  | release process => exact Iff.rfl

theorem AtText.kept (c : Callback Process) (before : AtText text r) (isRead : c.IsRead)
    (stores : StoresAll r c) (taken : step increment r c = some r') : AtText text r' := by
  cases c with
  | read process size buffer faults =>
    obtain ⟨position, rest, pointer, string, whole⟩ := before
    rw [step, deviceRead_text pointer string, Option.map_some, Option.some.injEq] at taken
    subst taken
    exact AtText.read string whole ((storesAll_iff pointer string).mp stores)
  | «open» process moduleGet => exact isRead.elim
  | release process => exact isRead.elim

/-- However a text is read, in pieces of any size and into any memory: every read counts what
it stored and leaves the rest to later reads, exactly when no read meets a fault. -/
theorem reads_sound_iff_store_all (before : AtText text r) (only : ∀ c ∈ reads, c.IsRead) :
    Each (step increment) (ReadSound text) r reads ↔ Each (step increment) StoresAll r reads := by
  refine each_iff_each (fun r c before _ => ?_) ?_ before (each_of_forall only r)
  · exact readSound_iff c before
  · intro r c r' before isRead stores taken
    exact before.kept c isRead stores taken

/-- The device as the first process has opened it. -/
def openedOnce : RunState Nat :=
  (RunState.boot fun _ => 0).afterOpen 1 (deviceOpen wrapIncrement true (.boot fun _ => 0)).2

theorem openedOnce_atText : AtText (message 1) openedOnce :=
  ⟨0, message 1, rfl, CString.stringAt_store _ 0 (message_clean 1), rfl⟩

/-- User memory that ends with a page. -/
def pageEnd (address : Nat) : Bool := decide (4096 ≤ address)

/-- The first read ends with the page, the second asks for more than is left of the message. -/
def readsInPage : List (Callback Nat) := [.read 1 2 4094 pageEnd, .read 1 100 4000 pageEnd]

theorem reads_sound_iff_store_all_opened :
    Each (step wrapIncrement) (ReadSound (message 1)) openedOnce readsInPage ↔
      Each (step wrapIncrement) StoresAll openedOnce readsInPage :=
  reads_sound_iff_store_all openedOnce_atText (by simp [readsInPage, Callback.IsRead])

/-- The byte that `put_user` cannot store is counted and passed over. -/
theorem faulting_byte_lost :
    ¬ ∀ (r : RunState Nat) (text : List Byte) (reads : List (Callback Nat)), AtText text r →
      (∀ c ∈ reads, c.IsRead) → Each (step wrapIncrement) (ReadSound text) r reads := by
  intro claim
  obtain ⟨stores, dev, outcome, _⟩ := (claim openedOnce (message 1) [.read 1 2 4095 pageEnd]
    openedOnce_atText (by simp [Callback.IsRead])).1
  have counted : (deviceRead pageEnd openedOnce.dev 2 4095).map (fun result => (result.1, result.2.1)) =
      some (2, [(4095, 0x64)]) := by
    decide +kernel
  rw [outcome] at counted
  obtain ⟨count, one⟩ : (stores.length : Int) = 2 ∧ stores = [(4095, 0x64)] :=
    Prod.mk.inj (Option.some.inj counted)
  rw [one] at count
  exact absurd count (by decide)

end Runs

end LddLearn.Chardev
