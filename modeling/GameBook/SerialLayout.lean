import GameBook.SerialNumbers
import GameBook.AppKey

/-!
The 64 bits of a serial number: 38 of the time, ten of the application id and
sixteen of the ticket, added up at the widths the members of `Global` have. The
id is shifted as an int and widened with its sign before the sum wraps. The
numbers over `Nat` that the pools and collections are keyed by are these words.
-/

namespace GameBook.SerialLayout

open LabelledRun SerialNumbers

/-- The members of `Global` that `GenerateSN` uses, at their own widths. -/
structure Global where
  timeTick : UInt64
  appId : Int32
  snTicket : UInt16
  deriving DecidableEq, Repr

def generateSN (global : Global) : UInt64 × Global :=
  (((global.timeTick >>> 10) <<< 26) + (global.appId <<< 16).toInt64.toUInt64
      + global.snTicket.toUInt64,
    { global with snTicket := global.snTicket + 1 })

/-- `static_cast<int>` of what the shifts leave. -/
def getAppIdFromSN (sn : UInt64) : Int32 := (AppKey.getAppIdFromSN sn).toUInt32.toInt32

structure Fits (global : Global) : Prop where
  natural : 0 ≤ global.appId.toInt
  tenBits : global.appId.toInt < 1024
  slot : (global.timeTick >>> 10).toNat < 274877906944

def values (global : Global) : PacketPool.Global :=
  ⟨global.timeTick.toNat, global.appId.toInt.toNat, global.snTicket.toNat⟩

/-! ### The parts of a number -/

theorem app_id_bits (appId : Int32) (natural : 0 ≤ appId.toInt) :
    appId.toBitVec.toNat = appId.toInt.toNat := by
  rw [← Int32.toInt_toBitVec, BitVec.toInt_eq_toNat_cond] at natural ⊢
  split at natural
  · rename_i small
    rw [if_pos small, Int.toNat_natCast]
  · have wide := appId.toBitVec.isLt
    omega

/-- A small id is shifted without reaching the sign bit of the int. -/
theorem shifted_app_id (appId : Int32) (natural : 0 ≤ appId.toInt) (small : appId.toInt < 1024) :
    (appId <<< 16).toInt64.toUInt64.toNat = appId.toInt.toNat * 65536 := by
  have bits := app_id_bits appId natural
  have shifted : (appId <<< 16).toBitVec = appId.toBitVec <<< 16 := by
    rw [Int32.toBitVec_shiftLeft]
    rfl
  have value : (appId.toBitVec <<< 16).toNat = appId.toInt.toNat * 65536 := by
    rw [BitVec.toNat_shiftLeft, bits, Nat.shiftLeft_eq]
    omega
  have unsigned : (appId.toBitVec <<< 16).msb = false := by
    rw [BitVec.msb_eq_false_iff_two_mul_lt]
    omega
  change ((appId <<< 16).toInt64).toBitVec.toNat = _
  rw [Int32.toBitVec_toInt64, shifted, BitVec.signExtend_eq_setWidth_of_msb_false unsigned,
    BitVec.toNat_setWidth, value]
  omega

/-- Nothing is carried from one part into the next. -/
theorem generate_sn_parts (global : Global) (fits : Fits global) :
    (generateSN global).1.toNat =
      (global.timeTick >>> 10).toNat * 67108864 + global.appId.toInt.toNat * 65536
        + global.snTicket.toNat := by
  have app := shifted_app_id global.appId fits.natural fits.tenBits
  have tenBits := fits.tenBits
  have slot := fits.slot
  have ticket := global.snTicket.toNat_lt
  simp only [generateSN, UInt64.toNat_add, app, UInt64.toNat_shiftLeft (global.timeTick >>> 10),
    UInt64.reduceToNat, Nat.reduceMod, Nat.shiftLeft_eq, UInt16.toNat_toUInt64]
  omega

theorem generate_sn_values (global : Global) (natural : 0 ≤ global.appId.toInt)
    (tenBits : global.appId.toInt < 1024) :
    PacketPool.generateSN (values global) =
      ((generateSN global).1.toNat, values (generateSN global).2) := by
  have app := shifted_app_id global.appId natural tenBits
  have ticket := global.snTicket.toNat_lt
  apply Prod.ext
  · simp only [PacketPool.generateSN, values, generateSN, UInt64.toNat_add, app,
      UInt64.toNat_shiftLeft, UInt64.toNat_shiftRight, UInt64.reduceToNat, Nat.reduceMod,
      Nat.shiftLeft_eq, UInt16.toNat_toUInt64]
    omega
  · simp [PacketPool.generateSN, values, generateSN, UInt16.toNat_add]

/-- The shifts keep bits 16 to 25, and the cast keeps their value. -/
theorem get_app_id_bits (sn : UInt64) :
    (getAppIdFromSN sn).toInt = ((sn.toNat % 67108864 / 65536 : Nat) : Int) := by
  have shifted : (AppKey.getAppIdFromSN sn).toNat = sn.toNat % 67108864 / 65536 := by
    simp only [AppKey.getAppIdFromSN, UInt64.toNat_shiftRight, UInt64.toNat_shiftLeft,
      UInt64.reduceToNat, Nat.reduceMod, Nat.shiftLeft_eq, Nat.shiftRight_eq_div_pow]
    omega
  have cast : (AppKey.getAppIdFromSN sn).toUInt32.toBitVec.toNat = sn.toNat % 67108864 / 65536 := by
    rw [UInt32.toNat_toBitVec, UInt64.toNat_toUInt32, shifted]
    omega
  change (AppKey.getAppIdFromSN sn).toUInt32.toBitVec.toInt = _
  rw [BitVec.toInt_eq_toNat_of_lt (by omega), cast]

theorem get_app_id_of_generated (global : Global) (fits : Fits global) :
    getAppIdFromSN (generateSN global).1 = global.appId := by
  have natural := fits.natural
  have tenBits := fits.tenBits
  have ticket := global.snTicket.toNat_lt
  apply Int32.toInt_inj.mp
  rw [get_app_id_bits, generate_sn_parts global fits]
  omega

/-- The parts are the digits of the number, so the number determines them. -/
theorem generate_sn_inj (first second : Global) (left : Fits first) (right : Fits second) :
    (generateSN first).1 = (generateSN second).1 ↔
      first.timeTick >>> 10 = second.timeTick >>> 10 ∧ first.appId = second.appId ∧
        first.snTicket = second.snTicket := by
  constructor
  · intro same
    have app : first.appId = second.appId := by
      rw [← get_app_id_of_generated first left, same, get_app_id_of_generated second right]
    have numbers := congrArg UInt64.toNat same
    rw [generate_sn_parts first left, generate_sn_parts second right, app] at numbers
    have firstTicket := first.snTicket.toNat_lt
    have secondTicket := second.snTicket.toNat_lt
    refine ⟨UInt64.toNat_inj.mp ?_, app, UInt16.toNat_inj.mp ?_⟩ <;> omega
  · rintro ⟨slot, app, ticket⟩
    simp only [generateSN, slot, app, ticket]

/-! ### The numbers of a process -/

/-- Every number a process has drawn carries the id of the process. -/
def Marked (appId : Nat) (process : Process) : Prop :=
  process.global.appId = appId ∧ process.global.snTicket < 65536 ∧
    ∀ drawn ∈ process.drawn, drawn.sn % 67108864 / 65536 = appId

theorem generated_app_id (global : PacketPool.Global) (tenBits : global.appId < 1024)
    (ticket : global.snTicket < 65536) :
    (PacketPool.generateSN global).1 % 67108864 / 65536 = global.appId := by
  simp only [PacketPool.generateSN, Nat.shiftLeft_eq]
  omega

theorem marked_step {appId : Nat} (small : appId < 1024) {before after : Process} {event : Event}
    (marked : Marked appId before) (taken : Step before event after) : Marked appId after := by
  obtain ⟨app, ticket, numbers⟩ := marked
  cases taken with
  | updateTime tick later => exact ⟨app, ticket, numbers⟩
  | generateSN =>
      refine ⟨app, Nat.mod_lt _ (by decide), ?_⟩
      intro drawn member
      rcases List.mem_append.mp member with earlier | now
      · exact numbers drawn earlier
      · rw [List.mem_singleton.mp now, generated_app_id _ (app ▸ small) ticket, app]
  | add entry drawn made first => cases entry.place <;> exact ⟨app, ticket, numbers⟩
  | remove place sn => cases place <;> exact ⟨app, ticket, numbers⟩
  | swapCache index => exact ⟨app, ticket, numbers⟩
  | moveAdds index => exact ⟨app, ticket, numbers⟩
  | removeTurn index => exact ⟨app, ticket, numbers⟩

theorem marked_run {appId : Nat} (small : appId < 1024) {tick : Nat} {trace : List Event}
    {process : Process} (run : Run Step (newProcess tick appId) trace process) :
    Marked appId process := by
  apply run_invariant (Marked appId) (fun _ _ _ marked taken => marked_step small marked taken) run
  have first : (newProcess tick appId).global.snTicket = 1 := rfl
  refine ⟨rfl, first ▸ by decide, ?_⟩
  intro drawn member
  cases member

/-- The id comes back out of a number, the number determines slot, id and
ticket, and two processes of different ids draw no number in common. -/
theorem serial_number_layout (first second : Global) (left : Fits first) (right : Fits second) :
    getAppIdFromSN (generateSN first).1 = first.appId ∧
      ((generateSN first).1 = (generateSN second).1 ↔
        first.timeTick >>> 10 = second.timeTick >>> 10 ∧ first.appId = second.appId ∧
          first.snTicket = second.snTicket) ∧
      (first.appId ≠ second.appId →
        ∀ (tick other : Nat) (trace others : List Event) (mine theirs : Process),
          Run Step (newProcess tick (values first).appId) trace mine →
          Run Step (newProcess other (values second).appId) others theirs →
          ∀ drawn ∈ mine.drawn, ∀ number ∈ theirs.drawn, drawn.sn ≠ number.sn) := by
  refine ⟨get_app_id_of_generated first left, generate_sn_inj first second left right, ?_⟩
  intro different tick other trace others mine theirs here there drawn member number listed same
  have naturals := And.intro left.natural right.natural
  have small := And.intro left.tenBits right.tenBits
  have marked := marked_run (by simp only [values]; omega) here
  have otherMarked := marked_run (by simp only [values]; omega) there
  have ids : (values first).appId = (values second).appId := by
    rw [← marked.2.2 drawn member, same, otherMarked.2.2 number listed]
  apply different
  apply Int32.toInt_inj.mp
  simp only [values] at ids
  omega

/-- Space processes 7 and 8 in one second with the last ticket. -/
theorem serial_number_layout_neighbours :
    Fits ⟨1700000000000, 7, 65535⟩ ∧ Fits ⟨1700000000000, 8, 65535⟩ ∧
      getAppIdFromSN (generateSN ⟨1700000000000, 7, 65535⟩).1 = 7 := by
  have seven : Fits ⟨1700000000000, 7, 65535⟩ := ⟨by decide, by decide, by decide⟩
  have eight : Fits ⟨1700000000000, 8, 65535⟩ := ⟨by decide, by decide, by decide⟩
  exact ⟨seven, eight, (serial_number_layout _ _ seven eight).1⟩

end GameBook.SerialLayout
