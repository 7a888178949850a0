import GameBook.LabelledRun
import GameBook.PacketLength

/-!
The sending end of an http connection: `AddPacket` puts packets of the http ids
into the send buffer without a head, and `Send` takes bytes out of it in pieces
of any size. What leaves are the texts of the packets, as long as the total size
of each, an unsigned short, does not wrap.
-/

namespace GameBook.HttpOutlet

open LabelledRun MachineWord NetworkBuffer ProtoId RingWindow TcpFraming WhileLoop
open PacketLength (Representable add_packet_whole data_length_whole wireBytes)

structure Outlet where
  buffer : Buffer
  written : List UInt8

inductive Output where
  | addPacket (p : Packet)
  | send (count : Nat)

def step (before : Outlet) (label : Output) (after : Outlet) : Prop :=
  match label with
  | .addPacket p =>
      ∃ fuel buffer, addPacket fuel before.buffer p = some buffer ∧ after = { before with buffer := buffer }
  | .send count =>
      0 < count ∧ (count : Int) ≤ (sendGetBuffer before.buffer).2 ∧
        after = {
          buffer := removeDate before.buffer count
          written := before.written ++
            slice before.buffer.buffer ((sendGetBuffer before.buffer).1.getD 0) count }

def Sized (before : Outlet) : Output → Prop
  | .addPacket p => getEmptySize before.buffer < totalSizeOf p →
      before.buffer.bufferSize + additionalSize < 2147483648
  | .send _ => True

def packetOf : Output → Option Packet
  | .addPacket p => some p
  | .send _ => none

/-- These packets, in this order, were put into an empty send buffer, and this is
what has left it until it was empty again. -/
def Sends (packets : List Packet) (stream : List UInt8) : Prop :=
  ∃ (start : Buffer) (labels : List Output) (last : Buffer), Steady start ∧ contents start = [] ∧
    Run (Guarded step Sized) ⟨start, []⟩ labels ⟨last, stream⟩ ∧ labels.filterMap packetOf = packets ∧
    contents last = []

structure Sendable (p : Packet) : Prop where
  http : isHttpMsg p.msgId = true
  short : Representable p

def texts (packets : List Packet) : List UInt8 := packets.flatMap fun p => p.data

theorem wire_of_http {p : Packet} (sendable : Sendable p) : wireBytes p = p.data := by
  rw [wireBytes, if_pos sendable.http]

theorem send_step {before : Outlet} {count : Nat} (steady : Steady before.buffer) (positive : 0 < count)
    (offered : (count : Int) ≤ (sendGetBuffer before.buffer).2) :
    count ≤ before.buffer.dataSize ∧
      slice before.buffer.buffer ((sendGetBuffer before.buffer).1.getD 0) count =
        (contents before.buffer).take count := by
  have position : (sendGetBuffer before.buffer).1.getD 0 = before.buffer.beginIndex := by
    unfold sendGetBuffer
    rw [if_neg (by have := (send_offer_spec before.buffer count steady.sound steady.sized offered).1; omega)]
    split
    · rfl
    · rfl
  rw [position]
  exact send_offer_spec before.buffer count steady.sound steady.sized offered

theorem step_texts {before after : Outlet} {label : Output} (steady : Steady before.buffer)
    (sendable : ∀ p, packetOf label = some p → Sendable p) (taken : Guarded step Sized before label after) :
    Steady after.buffer ∧ after.written ++ contents after.buffer =
      before.written ++ contents before.buffer ++ texts (packetOf label).toList := by
  obtain ⟨taken, sized⟩ := taken
  cases label with
  | addPacket p =>
      obtain ⟨fuel, buffer, added, rfl⟩ := taken
      have fits := sendable p rfl
      obtain ⟨kept, appended⟩ := add_packet_whole fuel before.buffer buffer p steady fits.short sized added
      refine ⟨kept, ?_⟩
      dsimp only
      rw [appended, wire_of_http fits]
      simp [texts, packetOf]
  | send count =>
      obtain ⟨positive, offered, rfl⟩ := taken
      obtain ⟨held, bytes⟩ := send_step steady positive offered
      obtain ⟨kept, rest, -, -⟩ := remove_steady before.buffer count steady held
      refine ⟨kept, ?_⟩
      dsimp only
      rw [bytes, rest]
      simp [texts, packetOf]

theorem packets_cons (label : Output) (rest : List Output) :
    (label :: rest).filterMap packetOf = (packetOf label).toList ++ rest.filterMap packetOf := by
  cases label with
  | addPacket p => rfl
  | send count => rfl

theorem run_texts {before after : Outlet} {labels : List Output} (steady : Steady before.buffer)
    (sendable : ∀ p ∈ labels.filterMap packetOf, Sendable p)
    (run : Run (Guarded step Sized) before labels after) :
    after.written ++ contents after.buffer =
      before.written ++ contents before.buffer ++ texts (labels.filterMap packetOf) := by
  induction run with
  | refl => simp [texts]
  | @next before middle after label rest taken _ ih =>
      rw [packets_cons] at sendable ⊢
      obtain ⟨kept, moved⟩ := step_texts steady (by
        intro p added
        apply sendable p
        rw [added]
        exact List.mem_append_left _ List.mem_cons_self) taken
      rw [ih kept fun p member => sendable p (List.mem_append_right _ member), moved, texts, texts, texts,
        List.flatMap_append, List.append_assoc]

theorem sends_texts {packets : List Packet} {stream : List UInt8} (sendable : ∀ p ∈ packets, Sendable p)
    (sends : Sends packets stream) : stream = texts packets := by
  obtain ⟨start, labels, last, steady, empty, run, rfl, drained⟩ := sends
  have carried := run_texts steady sendable run
  dsimp only at carried
  rw [empty, drained] at carried
  simpa using carried

/-! ### Whatever can be put in leaves -/

theorem drains (before : Outlet) (steady : Steady before.buffer) :
    ∃ labels last, Run (Guarded step Sized) before labels ⟨last, before.written ++ contents before.buffer⟩ ∧
      labels.filterMap packetOf = [] ∧ contents last = [] ∧ Steady last ∧
      last.bufferSize = before.buffer.bufferSize := by
  generalize held : before.buffer.dataSize = size
  induction size using Nat.strongRecOn generalizing before with
  | ind size ih =>
      by_cases empty : contents before.buffer = []
      · refine ⟨[], before.buffer, ?_, rfl, empty, steady, rfl⟩
        rw [empty, List.append_nil]
        exact Run.refl _
      · have filled : 0 < before.buffer.dataSize := by
          rw [← contents_length]
          exact List.length_pos_iff.mpr empty
        have begins := steady.sound.begins
        have offer := send_offer_exact before.buffer steady.sound steady.sized
        -- send is offered a positive part, less than all of it where the ring wraps
        obtain ⟨count, equal⟩ := Int.eq_ofNat_of_zero_le (a := (sendGetBuffer before.buffer).2) (by omega)
        have positive : 0 < count := by omega
        have offered : (count : Int) ≤ (sendGetBuffer before.buffer).2 := le_of_eq equal.symm
        obtain ⟨within, bytes⟩ := send_step steady positive offered
        obtain ⟨kept, rest, less, same⟩ := remove_steady before.buffer count steady within
        -- so that there is less to send, which the induction is on
        obtain ⟨labels, last, run, none, drained, whole, sized⟩ :=
          ih (size - count) (by omega)
            ⟨removeDate before.buffer count, before.written ++ (contents before.buffer).take count⟩ kept
            (by dsimp only; omega)
        have taken : Guarded step Sized before (.send count)
            ⟨removeDate before.buffer count, before.written ++ (contents before.buffer).take count⟩ :=
          ⟨⟨positive, offered, by rw [bytes]⟩, trivial⟩
        refine ⟨.send count :: labels, last, ?_, none, drained, whole, sized.trans same⟩
        have all : before.written ++ (contents before.buffer).take count ++ contents (removeDate before.buffer count) =
            before.written ++ contents before.buffer := by
          rw [rest, List.append_assoc, List.take_append_drop]
        dsimp only at run
        rw [all] at run
        exact Run.next taken run

theorem adds (b : Buffer) (p : Packet) (steady : Steady b) (sendable : Sendable p) (empty : contents b = [])
    (large : 65536 ≤ b.bufferSize) :
    ∃ after, addPacket 1 b p = some after ∧ Steady after ∧ contents after = p.data ∧
      after.bufferSize = b.bufferSize ∧ totalSizeOf p ≤ getEmptySize b := by
  obtain ⟨length, total⟩ := data_length_whole p sendable.short
  have short : totalSizeOf p < 65536 := Nat.mod_lt _ (by decide)
  have none : b.dataSize = 0 := by
    rw [← contents_length, empty]
    rfl
  have room : totalSizeOf p ≤ getEmptySize b := by
    rw [get_empty_size_exact b steady.sound steady.sized]
    omega
  have leaves : reserve (totalSizeOf p) b = .inr b := by
    rw [reserve, if_neg (by omega)]
  have whole : p.data.take (getDataLength p) = p.data := by
    rw [length, List.take_length]
  have added : addPacket 1 b p = some (memcpyToBuffer b p.data) := by
    rw [addPacket, loop_exit 0 leaves, Option.map_some, writeHead, if_pos sendable.http, whole]
  obtain ⟨kept, appended⟩ := add_packet_whole 1 b _ p steady sendable.short (fun lacks => by omega) added
  rw [empty, List.nil_append, wire_of_http sendable] at appended
  exact ⟨_, added, kept, appended,
    (memcpy_to_buffer_spec b p.data steady.sound steady.sized (by omega)).2.2, room⟩

theorem sends_all (packets : List Packet) (sendable : ∀ p ∈ packets, Sendable p) :
    Sends packets (texts packets) := by
  -- each text is drained before the next packet is put in, so that the buffer never grows
  have step_all : ∀ (b : Buffer) (written : List UInt8), Steady b → contents b = [] → 65536 ≤ b.bufferSize →
      ∃ labels last, Run (Guarded step Sized) ⟨b, written⟩ labels ⟨last, written ++ texts packets⟩ ∧
        labels.filterMap packetOf = packets ∧ contents last = [] := by
    induction packets with
    | nil =>
        intro b written _ empty _
        refine ⟨[], b, ?_, rfl, empty⟩
        rw [texts, List.flatMap_nil, List.append_nil]
        exact Run.refl _
    | cons p rest ih =>
        intro b written steady empty large
        obtain ⟨after, added, kept, holds, size, room⟩ :=
          adds b p steady (sendable p List.mem_cons_self) empty large
        obtain ⟨drain, middle, drained, none, left, whole, same⟩ := drains ⟨after, written⟩ kept
        dsimp only at drained same
        rw [holds] at drained
        obtain ⟨labels, last, run, given, done⟩ := ih (fun q member => sendable q (List.mem_cons_of_mem p member))
          middle (written ++ p.data) whole left (by omega)
        have taken : Guarded step Sized ⟨b, written⟩ (.addPacket p) ⟨after, written⟩ :=
          ⟨⟨1, after, added, rfl⟩, fun lacks => by dsimp only at lacks; omega⟩
        refine ⟨.addPacket p :: (drain ++ labels), last, ?_, ?_, done⟩
        · rw [texts, List.flatMap_cons, ← List.append_assoc]
          exact Run.next taken (run_append drained run)
        · rw [packets_cons, List.filterMap_append, none, given]
          rfl
  obtain ⟨labels, last, run, given, done⟩ :=
    step_all (create 131072) [] PacketLength.create_steady rfl (by decide)
  exact ⟨create 131072, labels, last, PacketLength.create_steady, rfl, run, given, done⟩

end GameBook.HttpOutlet
