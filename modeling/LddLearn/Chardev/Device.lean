import LddLearn.Library.CString
import LddLearn.Library.Copy
import LddLearn.Library.Run
import Mathlib.Data.List.Basic

/-!
# The chardev-01 and chardev-02 drivers

`device_open`, `device_release` (`chardev.c`) and `device_read` (`file_op.c`) are
word for word the same in both, with the same `BUFFER_SIZE`. Memory is counted from
`msg_buff` on, so what `sprintf` writes behind the array is seen. The other globals
are kept apart from that memory, although `has_open` may lie right behind `msg_buff`:
past the 99th open, what is said of them takes `msg_buff` as large enough for the
message. The open counter is incremented by a parameter: `wrapIncrement` is that of
a 32-bit `int`.

`sprintfSizes` and the contents of a `RunState` beside the device are bookkeeping
of the model.
-/

set_option autoImplicit false

namespace LddLearn.Chardev
open LddLearn.Library LddLearn.Library.Run

def BUFFER_SIZE : Nat := 32
def EBUSY : Int := 16
def NO_ERROR : Int := 0

abbrev Byte := BitVec 8

def asciiBytes (text : List Char) : List Byte := text.map fun c => BitVec.ofNat 8 c.toNat

/-- The digits `%d` prints. -/
def decimal (n : Int) : List Char :=
  if n < 0 then '-' :: Nat.toDigits 10 n.natAbs else Nat.toDigits 10 n.natAbs

/-- What `sprintf` makes of `"device already opened %d times\n"`. -/
def message (count : Int) : List Byte :=
  asciiBytes ("device already opened ".toList ++ decimal count ++ " times\n".toList)

/-- `++counter` of a 32-bit `int`. -/
def wrapIncrement (counter : Int) : Int := (BitVec.ofInt 32 (counter + 1)).toInt

/-- The globals of the driver; `msg_ptr` is an offset into memory, or NULL. -/
structure Device where
  counter : Int
  hasOpen : Int
  mem : Nat → Byte
  msgPtr : Option Nat
  moduleRefs : Int
  /-- bytes each `sprintf` has written, the latest first -/
  sprintfSizes : List Nat

/-- Static storage: `msg_buff` is zero, and `behind` is what memory holds after it. -/
def Device.boot (behind : Nat → Byte) : Device where
  counter := 0
  hasOpen := 0
  mem := fun address => if address < BUFFER_SIZE then 0 else behind (address - BUFFER_SIZE)
  msgPtr := none
  moduleRefs := 0
  sprintfSizes := []

/-- `moduleGet` is the answer of `try_module_get`, which is not looked at. -/
def deviceOpen (increment : Int → Int) (moduleGet : Bool) (dev : Device) : Int × Device :=
  if dev.hasOpen ≠ 0 then (-EBUSY, dev)
  else
    let counter := increment dev.counter
    (NO_ERROR, {
      counter
      hasOpen := dev.hasOpen + 1
      mem := CString.store 0 dev.mem 0 (message counter)
      msgPtr := some 0
      moduleRefs := if moduleGet then dev.moduleRefs + 1 else dev.moduleRefs
      sprintfSizes := ((message counter).length + 1) :: dev.sprintfSizes })

def deviceRelease (dev : Device) : Device :=
  { dev with hasOpen := dev.hasOpen - 1, moduleRefs := dev.moduleRefs - 1 }

/-- A `put_user` that did not fault: the address and the byte. -/
abbrev UserStore := Nat × Byte

/-- The loop of `device_read`: the number of bytes counted, the stores made, and the
advanced pointer. The source does not look at `put_user`'s answer. -/
def readLoop (faults : Nat → Bool) (mem : Nat → Byte) : Nat → Nat → Nat → Int × List UserStore × Nat
  | 0, msgPtr, _ => (0, [], msgPtr)
  | size + 1, msgPtr, buffer =>
    if mem msgPtr = 0 then (0, [], msgPtr)
    else
      let (bytesRead, stores, last) := readLoop faults mem size (msgPtr + 1) (buffer + 1)
      (bytesRead + 1,
        if faults buffer then stores else (buffer, mem msgPtr) :: stores, last)

/-- `device_read`; a NULL `msg_ptr` has no defined outcome. `faults` are the user addresses
`put_user` cannot write. -/
def deviceRead (faults : Nat → Bool) (dev : Device) (size buffer : Nat) :
    Option (Int × List UserStore × Device) :=
  dev.msgPtr.map fun msgPtr =>
    if dev.mem msgPtr = 0 then (0, [], dev)
    else
      let (bytesRead, stores, last) := readLoop faults dev.mem size msgPtr buffer
      (bytesRead, stores, { dev with msgPtr := some last })

/-! ## Runs -/

/-- One system call on the device file, by a process. -/
inductive Callback (Process : Type) where
  | open (by_ : Process) (moduleGet : Bool)
  | read (by_ : Process) (size buffer : Nat) (faults : Nat → Bool)
  | release (by_ : Process)

/-- The device with the number of successful opens, the process that has it open, and the
bytes its reads have stored since. -/
structure RunState (Process : Type) where
  dev : Device
  opens : Nat
  holder : Option Process
  delivered : List Byte

def RunState.boot {Process : Type} (behind : Nat → Byte) : RunState Process where
  dev := .boot behind
  opens := 0
  holder := none
  delivered := []

section Step
variable {Process : Type}

def RunState.afterOpen (r : RunState Process) (process : Process) (dev : Device) :
    RunState Process where
  dev := dev
  opens := r.opens + 1
  holder := some process
  delivered := []

def RunState.afterRelease (r : RunState Process) : RunState Process where
  dev := deviceRelease r.dev
  opens := r.opens
  holder := none
  delivered := r.delivered

def step (increment : Int → Int) (r : RunState Process) :
    Callback Process → Option (RunState Process)
  | .open process moduleGet =>
    let (ret, dev) := deviceOpen increment moduleGet r.dev
    some (if ret = NO_ERROR then r.afterOpen process dev else { r with dev })
  | .read _ size buffer faults =>
    (deviceRead faults r.dev size buffer).map fun result =>
      { r with dev := result.2.2, delivered := r.delivered ++ result.2.1.map (·.2) }
  | .release _ => some r.afterRelease

end Step

/-! ## The message -/

theorem asciiBytes_ne_zero {text : List Char} (plain : ∀ c ∈ text, 0 < c.toNat ∧ c.toNat < 256) :
    ∀ byte ∈ asciiBytes text, byte ≠ 0 := by
  intro byte member zero
  obtain ⟨c, here, same⟩ := List.mem_map.mp member
  have range := plain c here
  rw [← same] at zero
  have := congrArg BitVec.toNat zero
  rw [BitVec.toNat_ofNat] at this
  have : c.toNat % 256 = 0 := this
  omega

theorem digit_plain {c : Char} (digit : c.isDigit = true) : 0 < c.toNat ∧ c.toNat < 256 := by
  simp only [Char.isDigit, Bool.and_eq_true, decide_eq_true_eq, ge_iff_le,
    UInt32.le_iff_toNat_le] at digit
  have lower : 48 ≤ c.toNat := digit.1
  have upper : c.toNat ≤ 57 := digit.2
  omega

theorem decimal_plain (n : Int) : ∀ c ∈ decimal n, 0 < c.toNat ∧ c.toNat < 256 := by
  have digits : ∀ c ∈ Nat.toDigits 10 n.natAbs, 0 < c.toNat ∧ c.toNat < 256 :=
    fun c member => digit_plain (Nat.isDigit_of_mem_toDigits (by decide) (by decide) member)
  unfold decimal
  split
  · intro c member
    rcases List.mem_cons.mp member with same | later
    · subst same
      decide
    · exact digits c later
  · exact digits

theorem literal_plain {text : List Char}
    (plain : (text.all fun c => decide (0 < c.toNat ∧ c.toNat < 256)) = true) :
    ∀ c ∈ text, 0 < c.toNat ∧ c.toNat < 256 :=
  fun c member => of_decide_eq_true (List.all_eq_true.mp plain c member)

/-- `sprintf`'s text contains no NUL. -/
theorem message_clean (count : Int) : ∀ byte ∈ message count, byte ≠ 0 := by
  apply asciiBytes_ne_zero
  intro c member
  simp only [List.mem_append] at member
  rcases member with (front | digits) | back
  · exact literal_plain (by decide) c front
  · exact decimal_plain count c digits
  · exact literal_plain (by decide) c back

theorem message_length (count : Int) : (message count).length = 29 + (decimal count).length := by
  simp [message, asciiBytes]
  omega

example : message 7 = asciiBytes "device already opened 7 times\n".toList := by decide

/-! ## Open and read -/

theorem open_busy {increment : Int → Int} {moduleGet : Bool} {dev : Device}
    (busy : dev.hasOpen ≠ 0) : deviceOpen increment moduleGet dev = (-EBUSY, dev) := by
  rw [deviceOpen, if_pos busy]

theorem open_free {increment : Int → Int} {moduleGet : Bool} {dev : Device}
    (free : dev.hasOpen = 0) :
    deviceOpen increment moduleGet dev = (NO_ERROR, {
      counter := increment dev.counter
      hasOpen := dev.hasOpen + 1
      mem := CString.store 0 dev.mem 0 (message (increment dev.counter))
      msgPtr := some 0
      moduleRefs := if moduleGet then dev.moduleRefs + 1 else dev.moduleRefs
      sprintfSizes := ((message (increment dev.counter)).length + 1) :: dev.sprintfSizes }) := by
  rw [deviceOpen, if_neg (not_not.mpr free)]

/-- A read moves the pointer and nothing else of the driver. -/
theorem deviceRead_same {faults : Nat → Bool} {dev after : Device} {size buffer : Nat} {ret : Int}
    {stores : List UserStore} (outcome : deviceRead faults dev size buffer = some (ret, stores, after)) :
    after = { dev with msgPtr := after.msgPtr } := by
  unfold deviceRead at outcome
  obtain ⟨msgPtr, pointer, result⟩ := Option.map_eq_some_iff.mp outcome
  split at result
  · obtain rfl := (Prod.mk.inj (Prod.mk.inj result).2).2
    rfl
  · obtain rfl := (Prod.mk.inj (Prod.mk.inj result).2).2
    rfl

/-- The stores of successive bytes from an address on. -/
def storesFrom : Nat → List Byte → List UserStore
  | _, [] => []
  | buffer, byte :: rest => (buffer, byte) :: storesFrom (buffer + 1) rest

@[simp] theorem storesFrom_bytes (buffer : Nat) (bytes : List Byte) :
    (storesFrom buffer bytes).map (·.2) = bytes := by
  induction bytes generalizing buffer with
  | nil => rfl
  | cons byte rest ih => rw [storesFrom, List.map_cons, ih]

theorem copyOut_writable (buffer : Nat) (bytes : List Byte) :
    Copy.copyOut (fun _ => false) buffer bytes = storesFrom buffer bytes := by
  induction bytes generalizing buffer with
  | nil => rfl
  | cons byte rest ih => rw [Copy.copyOut, ih, storesFrom, if_neg Bool.false_ne_true]

/-- The loop passes over as much of the text as asked for, whatever of it can be stored. -/
theorem readLoop_text {faults : Nat → Bool} {mem : Nat → Byte} {msgPtr : Nat} {text : List Byte}
    (string : CString.StringAt 0 mem msgPtr text) (size buffer : Nat) :
    readLoop faults mem size msgPtr buffer =
      (((min size text.length : Nat) : Int), Copy.copyOut faults buffer (text.take size),
        msgPtr + min size text.length) := by
  induction size generalizing msgPtr buffer text with
  | zero => simp [readLoop, Copy.copyOut]
  | succ size ih =>
    unfold readLoop
    cases text with
    | nil =>
      have ended : mem msgPtr = 0 := string
      rw [if_pos ended]
      simp [Copy.copyOut]
    | cons byte rest =>
      obtain ⟨here, notNul, later⟩ := string
      have going : mem msgPtr ≠ 0 := here ▸ notNul
      rw [if_neg going, ih later]
      simp only [List.length_cons, List.take_succ_cons, Copy.copyOut, here, Prod.mk.injEq]
      refine ⟨?_, trivial, ?_⟩
      · omega
      · omega

/-- A read of a device whose pointer stands at a text. -/
theorem deviceRead_text {faults : Nat → Bool} {dev : Device} {position : Nat} {text : List Byte}
    (pointer : dev.msgPtr = some position) (string : CString.StringAt 0 dev.mem position text)
    (size buffer : Nat) :
    deviceRead faults dev size buffer =
      some (((min size text.length : Nat) : Int), Copy.copyOut faults buffer (text.take size),
        { dev with msgPtr := some (position + min size text.length) }) := by
  unfold deviceRead
  rw [pointer, Option.map_some]
  cases text with
  | nil =>
    have ended : dev.mem position = 0 := string
    rw [if_pos ended]
    simp [Copy.copyOut, ← pointer]
  | cons byte rest =>
    have going : dev.mem position ≠ 0 := string.1 ▸ string.2.1
    rw [if_neg going, readLoop_text string]

/-! ## Steps -/

section Steps
variable {Process : Type} {increment : Int → Int} {r r' : RunState Process} {process : Process}
  {moduleGet : Bool}

theorem step_open_busy (busy : r.dev.hasOpen ≠ 0) :
    step increment r (.open process moduleGet) = some r := by
  have rejected : -EBUSY ≠ NO_ERROR := by decide
  simp only [step, open_busy busy, if_neg rejected]

theorem step_open_free (free : r.dev.hasOpen = 0) :
    step increment r (.open process moduleGet) =
      some (r.afterOpen process (deviceOpen increment moduleGet r.dev).2) := by
  simp only [step, open_free free, if_true]

/-- What a read leaves of the run state. -/
theorem step_read_same {size buffer : Nat} {faults : Nat → Bool}
    (taken : step increment r (.read process size buffer faults) = some r') :
    r'.opens = r.opens ∧ r'.holder = r.holder ∧
      r'.dev = { r.dev with msgPtr := r'.dev.msgPtr } := by
  obtain ⟨⟨ret, stores, dev⟩, outcome, same⟩ := Option.map_eq_some_iff.mp taken
  subst same
  exact ⟨rfl, rfl, deviceRead_same outcome⟩

end Steps

end LddLearn.Chardev
