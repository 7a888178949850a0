import Mathlib.Data.List.Count
import GameBook.LabelledRun
import GameBook.OrderedMap
import GameBook.ProtoId
import GameBook.Rotation

/-!
How the main thread hands packets on: `UpdateCreatePacket` and
`UpdateDispatchPacket` of thread_mgr.cpp over the thread collectors. The main
thread puts a packet in one list after the other, and the threads work on their
lists meanwhile. A packet is named by its place in the order in which the two
loops took them up; its counter is read and written one thread at a time.
-/

namespace GameBook.ThreadDispatch

open LabelledRun OrderedMap ProtoId Rotation Std

/-- `CacheRefresh<Thread>`: the serial numbers of the threads, in map order. -/
structure Threads where
  sns : List Nat
  filled : sns ≠ []
  sorted : sns.Pairwise (· < ·)
  deriving DecidableEq

theorem threads_nodup (threads : Threads) : threads.sns.Nodup := by
  apply List.Pairwise.imp _ threads.sorted
  intro first second below same
  exact Nat.lt_irrefl second (same ▸ below)

structure Collector where
  threads : Threads
  nextThreadSn : Nat
  deriving DecidableEq

def newCollector (threads : Threads) : Collector := ⟨threads, 0⟩

/-- The number of `ThreadType::MysqlThread`, the type with an exclusive collector. -/
def mysqlThread : Nat := 1 <<< 4

/-- `find(_nextThreadSn)`, else `begin()`, and where `_nextThreadSn` goes. -/
def nextThread (collector : Collector) : Nat × Collector :=
  let sn := current collector.threads.sns collector.threads.filled collector.nextThreadSn
  (sn, { collector with
    nextThreadSn := following collector.threads.sns collector.threads.filled sn })

def handlerCreateMessage (collector : Collector) (isToAllThread : Bool) : List Nat × Collector :=
  if isToAllThread then (collector.threads.sns, collector)
  else ([(nextThread collector).1], (nextThread collector).2)

def handlerMessage (threadType : Nat) (collector : Collector) (msgId : MsgId) :
    List Nat × Collector :=
  if threadType = mysqlThread then
    if msgId = .miCmdThread then handlerCreateMessage collector true
    else ([(nextThread collector).1], (nextThread collector).2)
  else (collector.threads.sns, collector)

/-- What a loop takes up: a packet of `_packets`, or a CreateComponent of
`_createPackets` with the fields that decide where it goes. -/
inductive Message where
  | dispatched (msgId : MsgId)
  | create (threadType : Nat) (isToAllThread : Bool)
  deriving DecidableEq, Repr

inductive Target where
  | main
  | thread (threadType sn : Nat)
  deriving DecidableEq, Repr

abbrev Collectors := Table Nat Collector

/-- The lists a packet goes to, in order, and what becomes of the collectors;
nothing where the packet is given up without `OpenRef`. -/
def targetsOf (collectors : Collectors) : Message → Option (List Target × Collectors)
  | .dispatched msgId =>
      some (.main :: collectors.toList.flatMap (fun entry =>
          (handlerMessage entry.1 entry.2 msgId).1.map (.thread entry.1)),
        collectors.map fun threadType collector => (handlerMessage threadType collector msgId).2)
  | .create threadType isToAllThread =>
      if collectors.isEmpty then some ([.main], collectors)
      else
        match collectors[threadType]? with
        | none => none
        | some collector =>
            let (given, after) := handlerCreateMessage collector isToAllThread
            some (given.map (.thread threadType), collectors.insert threadType after)

/-- `distributing` is what is left of the lists for the packet a loop stands at.
`handled`, `puts` and `processed` are the history. -/
structure Process where
  collectors : Collectors
  distributing : Option (List Target)
  waiting : Target → List Nat
  ref : Nat → Int
  isRefOpen : Nat → Bool
  handled : List Message
  puts : List (Target × Nat)
  processed : List (Target × Nat)

def start (config : Table Nat Threads) : Process :=
  ⟨config.map fun _ threads => newCollector threads, none, fun _ => [], fun _ => 0, fun _ => false,
    [], [], []⟩

def standing (process : Process) : Nat := process.handled.length - 1

def takeUp (process : Process) (message : Message) : Process :=
  match targetsOf process.collectors message with
  | some (targets, collectors) =>
      { process with
        handled := process.handled ++ [message]
        distributing := some targets
        collectors := collectors }
  | none => { process with handled := process.handled ++ [message] }

def addPacketToList (process : Process) (target : Target) (rest : List Target) : Process :=
  let packet := standing process
  { process with
    distributing := some rest
    waiting := Function.update process.waiting target (process.waiting target ++ [packet])
    ref := Function.update process.ref packet (process.ref packet + 1)
    puts := process.puts ++ [(target, packet)] }

def openRef (process : Process) : Process :=
  { process with
    distributing := none
    isRefOpen := Function.update process.isRefOpen (standing process) true }

def processed (process : Process) (target : Target) (packet : Nat) (rest : List Nat) : Process :=
  { process with
    waiting := Function.update process.waiting target rest
    ref := Function.update process.ref packet (process.ref packet - 1)
    processed := process.processed ++ [(target, packet)] }

inductive Event where
  | takeUp (message : Message)
  | addPacketToList
  | openRef
  | update (target : Target)
  deriving DecidableEq, Repr

inductive Step : Process → Event → Process → Prop where
  | takeUp (process : Process) (message : Message) :
      process.distributing = none → Step process (.takeUp message) (takeUp process message)
  | addPacketToList (process : Process) (target : Target) (rest : List Target) :
      process.distributing = some (target :: rest) →
      Step process .addPacketToList (addPacketToList process target rest)
  | openRef (process : Process) :
      process.distributing = some [] → Step process .openRef (openRef process)
  | update (process : Process) (target : Target) (packet : Nat) (rest : List Nat) :
      process.waiting target = packet :: rest →
      Step process (.update target) (ThreadDispatch.processed process target packet rest)

/-! ### What is asked of a run -/

def single : Message → Bool
  | .dispatched msgId => msgId ≠ .miCmdThread
  | .create threadType isToAllThread => threadType = mysqlThread ∧ isToAllThread = false

def FansOut (config : Table Nat Threads) (targets : List Target) : Message → Prop
  | .dispatched msgId =>
      targets.count .main = 1 ∧
      (∀ (threadType sn : Nat), .thread threadType sn ∈ targets →
        ∃ threads, config[threadType]? = some threads ∧ sn ∈ threads.sns) ∧
      ∀ (threadType : Nat) (threads : Threads), config[threadType]? = some threads →
        if threadType = mysqlThread ∧ single (.dispatched msgId) = true then
          ∃ chosen ∈ threads.sns, ∀ sn, targets.count (.thread threadType sn) =
            if sn = chosen then 1 else 0
        else ∀ sn ∈ threads.sns, targets.count (.thread threadType sn) = 1
  | .create threadType isToAllThread =>
      if config.isEmpty then targets = [.main]
      else
        match config[threadType]? with
        | none => targets = []
        | some threads =>
            if isToAllThread then targets = threads.sns.map (.thread threadType)
            else ∃ sn ∈ threads.sns, targets = [.thread threadType sn]

def putsOf (process : Process) (packet : Nat) : List Target :=
  (process.puts.filter fun put => put.2 = packet).map Prod.fst

/-- The thread of the exclusive collector that a put visits with a message for
one thread. -/
def visit (handled : List Message) : Target × Nat → Option Nat
  | (.main, _) => none
  | (.thread threadType sn, packet) =>
      if threadType = mysqlThread ∧ (handled[packet]?).any single then some sn else none

def visits (process : Process) : List Nat := process.puts.filterMap (visit process.handled)

def occurrences (history : List (Target × Nat)) (packet : Nat) : Nat :=
  history.countP fun entry => entry.2 = packet

def atTarget (history : List (Target × Nat)) (target : Target) : List Nat :=
  (history.filter fun entry => entry.1 = target).map Prod.snd

/-! ### Where a message goes -/

def SameThreads (config : Table Nat Threads) (collectors : Collectors) : Prop :=
  ∀ threadType : Nat, (collectors[threadType]?).map Collector.threads = config[threadType]?

theorem same_threads_some {config : Table Nat Threads} {collectors : Collectors}
    (same : SameThreads config collectors) {threadType : Nat} {threads : Threads}
    (configured : config[threadType]? = some threads) :
    ∃ collector, collectors[threadType]? = some collector ∧ collector.threads = threads := by
  have found := same threadType
  rw [configured] at found
  cases held : collectors[threadType]? with
  | none =>
      rw [held] at found
      cases found
  | some collector =>
      rw [held] at found
      exact ⟨collector, rfl, Option.some.inj found⟩

theorem same_threads_empty {config : Table Nat Threads} {collectors : Collectors}
    (same : SameThreads config collectors) : config.isEmpty = collectors.isEmpty := by
  have absent : ∀ key : Nat, key ∉ config ↔ key ∉ collectors := by
    intro key
    rw [← get_none_iff, ← get_none_iff, ← same key, Option.map_eq_none_iff]
  rw [Bool.eq_iff_iff, ExtTreeMap.isEmpty_iff, ExtTreeMap.isEmpty_iff,
    ExtTreeMap.eq_empty_iff_forall_not_mem, ExtTreeMap.eq_empty_iff_forall_not_mem]
  exact forall_congr' absent

theorem handler_message_threads (threadType : Nat) (collector : Collector) (msgId : MsgId) :
    (handlerMessage threadType collector msgId).2.threads = collector.threads := by
  unfold handlerMessage
  split
  · split <;> rfl
  · rfl

theorem handler_message_given (threadType : Nat) (collector : Collector) (msgId : MsgId) :
    (handlerMessage threadType collector msgId).1 =
      if threadType = mysqlThread ∧ single (.dispatched msgId) = true then
        [(nextThread collector).1]
      else collector.threads.sns := by
  unfold handlerMessage single
  by_cases exclusive : threadType = mysqlThread
  · by_cases command : msgId = .miCmdThread
    · simp [exclusive, command, handlerCreateMessage]
    · simp [exclusive, command]
  · simp [exclusive]

theorem next_thread_mem (collector : Collector) :
    (nextThread collector).1 ∈ collector.threads.sns :=
  current_mem _ _ _

def share (msgId : MsgId) (entry : Nat × Collector) : List Target :=
  (handlerMessage entry.1 entry.2 msgId).1.map (.thread entry.1)

theorem share_type {msgId : MsgId} {entry : Nat × Collector} {threadType sn : Nat}
    (member : .thread threadType sn ∈ share msgId entry) :
    threadType = entry.1 ∧ sn ∈ (handlerMessage entry.1 entry.2 msgId).1 := by
  obtain ⟨other, given, same⟩ := List.mem_map.mp member
  cases same
  exact ⟨rfl, given⟩

theorem share_main (msgId : MsgId) (entry : Nat × Collector) : .main ∉ share msgId entry := by
  intro member
  obtain ⟨sn, -, same⟩ := List.mem_map.mp member
  cases same

theorem count_share (collectors : Collectors) (msgId : MsgId) (threadType sn : Nat)
    (collector : Collector) (held : collectors[threadType]? = some collector) :
    (collectors.toList.flatMap (share msgId)).count (.thread threadType sn) =
      (handlerMessage threadType collector msgId).1.count sn := by
  have alone : (collectors.toList.flatMap (share msgId)).filter (· == .thread threadType sn) =
      (share msgId (threadType, collector)).filter (· == .thread threadType sn) := by
    rw [List.filter_flatMap]
    apply flat_map_at collectors threadType collector held
    intro other found _ apart
    apply List.filter_eq_nil_iff.mpr
    intro target member hit
    rw [beq_iff_eq.mp hit] at member
    exact apart (share_type member).1.symm
  rw [List.count_eq_length_filter, alone, ← List.count_eq_length_filter, share]
  apply List.count_map_of_injective
  intro first second same
  cases same
  rfl

theorem dispatched_fans_out {config : Table Nat Threads} {collectors : Collectors}
    (same : SameThreads config collectors) (msgId : MsgId) :
    FansOut config (.main :: collectors.toList.flatMap (share msgId)) (.dispatched msgId) := by
  refine ⟨?_, ?_, ?_⟩
  · rw [List.count_cons_self, List.count_eq_zero_of_not_mem]
    intro member
    obtain ⟨entry, _, inside⟩ := List.mem_flatMap.mp member
    exact share_main msgId entry inside
  · intro threadType sn member
    rcases List.mem_cons.mp member with impossible | inside
    · cases impossible
    · obtain ⟨⟨key, collector⟩, listed, given⟩ := List.mem_flatMap.mp inside
      obtain ⟨equal, chosen⟩ := share_type given
      dsimp only at equal chosen
      subst equal
      have held := ExtTreeMap.mem_toList_iff_getElem?_eq_some.mp listed
      have configured := same threadType
      rw [held] at configured
      refine ⟨collector.threads, configured.symm, ?_⟩
      rw [handler_message_given] at chosen
      split at chosen
      · rw [List.mem_singleton.mp chosen]
        exact next_thread_mem collector
      · exact chosen
  · intro threadType threads configured
    obtain ⟨collector, held, made⟩ := same_threads_some same configured
    have counted := fun sn => count_share collectors msgId threadType sn collector held
    have given := handler_message_given threadType collector msgId
    split
    · rename_i alone
      rw [if_pos alone] at given
      refine ⟨(nextThread collector).1, made ▸ next_thread_mem collector, ?_⟩
      intro sn
      rw [List.count_cons_of_ne (by simp), counted, given, List.count_singleton]
      by_cases hit : sn = (nextThread collector).1
      · simp [hit]
      · simp [hit, Ne.symm hit]
    · rename_i all
      rw [if_neg all, made] at given
      intro sn member
      rw [List.count_cons_of_ne (by simp), counted, given]
      exact List.count_eq_one_of_mem (threads_nodup threads) member

theorem create_fans_out {config : Table Nat Threads} {collectors after : Collectors}
    (same : SameThreads config collectors) {threadType : Nat} {isToAllThread : Bool}
    {targets : List Target}
    (found : targetsOf collectors (.create threadType isToAllThread) = some (targets, after)) :
    FansOut config targets (.create threadType isToAllThread) := by
  simp only [targetsOf] at found
  simp only [FansOut, same_threads_empty same]
  split at found
  · rename_i empty
    cases found
    rw [if_pos empty]
  · rename_i filled
    rw [if_neg filled]
    split at found
    · cases found
    · rename_i collector held
      cases found
      have configured := same threadType
      rw [held] at configured
      rw [← configured]
      dsimp only [Option.map_some]
      cases isToAllThread with
      | true => rfl
      | false => exact ⟨_, next_thread_mem collector, rfl⟩

/-! ### The rotation -/

def exclusiveVisits (message : Message) (targets : List Target) : List Nat :=
  targets.filterMap fun target =>
    match target with
    | .main => none
    | .thread threadType sn =>
        if threadType = mysqlThread ∧ single message = true then some sn else none

/-- What becomes of the collectors: the threads stay, and the exclusive one
moves on exactly when a message visits one of its threads. -/
structure TakenUp (collectors after : Collectors) (message : Message) (targets : List Target) :
    Prop where
  threads : ∀ threadType : Nat,
    (after[threadType]?).map Collector.threads = (collectors[threadType]?).map Collector.threads
  rotation : ∀ collector, collectors[mysqlThread]? = some collector →
    ∃ moved, after[mysqlThread]? = some moved ∧
      if single message = true then
        exclusiveVisits message targets = [(nextThread collector).1] ∧
          moved.nextThreadSn = (nextThread collector).2.nextThreadSn
      else exclusiveVisits message targets = [] ∧ moved.nextThreadSn = collector.nextThreadSn

theorem dispatched_taken_up (collectors : Collectors) (msgId : MsgId) :
    TakenUp collectors
      (collectors.map fun threadType collector => (handlerMessage threadType collector msgId).2)
      (.dispatched msgId) (.main :: collectors.toList.flatMap (share msgId)) := by
  constructor
  · intro threadType
    rw [ExtTreeMap.getElem?_map, Option.map_map]
    congr 1
    funext collector
    exact handler_message_threads threadType collector msgId
  · intro collector held
    refine ⟨_, by rw [ExtTreeMap.getElem?_map, held, Option.map_some], ?_⟩
    have given := handler_message_given mysqlThread collector msgId
    have visited : exclusiveVisits (.dispatched msgId)
        (.main :: collectors.toList.flatMap (share msgId)) =
          if single (.dispatched msgId) = true then
            (handlerMessage mysqlThread collector msgId).1
          else [] := by
      rw [exclusiveVisits, List.filterMap_cons_none rfl, List.filterMap_flatMap,
        flat_map_at collectors mysqlThread collector held]
      · simp only [share, List.filterMap_map]
        by_cases alone : single (.dispatched msgId) = true
        · simp [alone]
        · simp [alone]
      · intro other found _ apart
        simp only [share, List.filterMap_map]
        simp [apart]
    by_cases alone : single (.dispatched msgId) = true
    · rw [if_pos alone]
      rw [if_pos ⟨rfl, alone⟩] at given
      rw [visited, if_pos alone]
      refine ⟨given, ?_⟩
      have plain : msgId ≠ .miCmdThread := of_decide_eq_true alone
      simp [handlerMessage, plain]
    · rw [if_neg alone, visited, if_neg alone]
      refine ⟨rfl, ?_⟩
      have command : msgId = .miCmdThread := by simpa [single] using alone
      simp [handlerMessage, command, handlerCreateMessage]

theorem create_taken_up {collectors after : Collectors} {threadType : Nat} {isToAllThread : Bool}
    {targets : List Target}
    (found : targetsOf collectors (.create threadType isToAllThread) = some (targets, after)) :
    TakenUp collectors after (.create threadType isToAllThread) targets := by
  simp only [targetsOf] at found
  split at found
  · rename_i empty
    cases found
    refine ⟨fun _ => rfl, ?_⟩
    intro collector held
    rw [ExtTreeMap.isEmpty_iff.mp empty, ExtTreeMap.getElem?_empty] at held
    cases held
  · split at found
    · cases found
    · rename_i collector held
      cases found
      have kept : (handlerCreateMessage collector isToAllThread).2.threads = collector.threads := by
        unfold handlerCreateMessage
        split <;> rfl
      constructor
      · intro other
        rw [get_insert]
        split
        · rename_i same
          rw [same, held, Option.map_some, Option.map_some, kept]
        · rfl
      · intro exclusive there
        by_cases mine : mysqlThread = threadType
        · subst mine
          rw [held] at there
          cases there
          refine ⟨_, by rw [get_insert, if_pos rfl], ?_⟩
          cases isToAllThread with
          | true => simp [single, exclusiveVisits, handlerCreateMessage, List.filterMap_map]
          | false => simp [single, exclusiveVisits, handlerCreateMessage]
        · refine ⟨exclusive, by rw [get_insert, if_neg mine]; exact there, ?_⟩
          have other : threadType ≠ mysqlThread := Ne.symm mine
          simp [single, exclusiveVisits, other, List.filterMap_map]

theorem targets_of_spec {config : Table Nat Threads} {collectors after : Collectors}
    (same : SameThreads config collectors) {message : Message} {targets : List Target}
    (found : targetsOf collectors message = some (targets, after)) :
    FansOut config targets message ∧ TakenUp collectors after message targets := by
  cases message with
  | dispatched msgId =>
      cases found
      exact ⟨dispatched_fans_out same msgId, dispatched_taken_up collectors msgId⟩
  | create threadType isToAllThread => exact ⟨create_fans_out same found, create_taken_up found⟩

theorem targets_of_none {config : Table Nat Threads} {collectors : Collectors}
    (same : SameThreads config collectors) {message : Message}
    (missing : targetsOf collectors message = none) : FansOut config [] message := by
  cases message with
  | dispatched msgId => cases missing
  | create threadType isToAllThread =>
      simp only [targetsOf] at missing
      split at missing
      · cases missing
      · rename_i filled
        split at missing
        · rename_i absent
          have configured := same threadType
          rw [absent, Option.map_none] at configured
          simp only [FansOut, same_threads_empty same, if_neg filled, ← configured]
        · cases missing

/-! ### The invariant -/

def left (process : Process) (packet : Nat) : List Target :=
  if packet = standing process then process.distributing.getD [] else []

def leftVisits (process : Process) : List Nat :=
  (process.distributing.getD []).filterMap fun target =>
    visit process.handled (target, standing process)

/-- What was put and what is left of each packet is its fan-out, and the visits
made and to be made are in rotation. -/
structure Inv (config : Table Nat Threads) (process : Process) : Prop where
  same : SameThreads config process.collectors
  busy : process.distributing ≠ none → process.handled ≠ []
  made : ∀ put ∈ process.puts, put.2 < process.handled.length
  fans : ∀ packet message, process.handled[packet]? = some message →
    FansOut config (putsOf process packet ++ left process packet) message
  rotates : ∀ collector, process.collectors[mysqlThread]? = some collector →
    Rotates collector.threads.sns (visits process ++ leftVisits process) ∧
      Points collector.threads.sns collector.threads.filled
        (visits process ++ leftVisits process).length collector.nextThreadSn
  refs : ∀ packet, process.ref packet =
    occurrences process.puts packet - occurrences process.processed packet
  lists : ∀ target, atTarget process.puts target =
    atTarget process.processed target ++ process.waiting target

theorem sorted_zero_head (sns : List Nat) (filled : sns ≠ []) (sorted : sns.Pairwise (· < ·))
    (inside : 0 ∈ sns) : 0 = sns.head filled := by
  cases sns with
  | nil => cases inside
  | cons first rest =>
      rcases List.mem_cons.mp inside with same | member
      · exact same
      · have below := (List.pairwise_cons.mp sorted).1 0 member
        omega

theorem start_inv (config : Table Nat Threads) : Inv config (start config) := by
  refine ⟨?_, fun busy => absurd rfl busy, ?_, ?_, ?_, fun _ => rfl, fun _ => rfl⟩
  · intro threadType
    simp only [start, ExtTreeMap.getElem?_map, Option.map_map]
    cases config[threadType]? <;> rfl
  · intro put member
    cases member
  · intro packet message here
    cases here
  · intro collector held
    simp only [start, ExtTreeMap.getElem?_map, Option.map_eq_some_iff] at held
    obtain ⟨threads, -, rfl⟩ := held
    exact ⟨rotates_nil _, points_start _ _ _ (sorted_zero_head _ threads.filled threads.sorted)⟩

theorem visit_append (handled : List Message) (message : Message) (put : Target × Nat)
    (earlier : put.2 < handled.length) : visit (handled ++ [message]) put = visit handled put := by
  obtain ⟨target, packet⟩ := put
  cases target with
  | main => rfl
  | thread threadType sn => simp only [visit, List.getElem?_append_left earlier]

theorem visit_standing (handled : List Message) (packet : Nat) (message : Message)
    (here : handled[packet]? = some message) (targets : List Target) :
    (targets.filterMap fun target => visit handled (target, packet)) =
      exclusiveVisits message targets := by
  unfold exclusiveVisits
  apply List.filterMap_congr
  intro target _
  cases target with
  | main => rfl
  | thread threadType sn => simp only [visit, here, Option.any_some]

theorem puts_beyond {config : Table Nat Threads} {process : Process} (inv : Inv config process) :
    putsOf process process.handled.length = [] := by
  unfold putsOf
  rw [List.map_eq_nil_iff, List.filter_eq_nil_iff]
  intro put member hit
  have earlier := inv.made put member
  have same := of_decide_eq_true hit
  omega

theorem taken_up_inv {config : Table Nat Threads} {process after : Process} {message : Message}
    {targets : List Target} (inv : Inv config process) (idle : process.distributing = none)
    (fans : FansOut config targets message)
    (moved : TakenUp process.collectors after.collectors message targets)
    (distributing : after.distributing.getD [] = targets)
    (handled : after.handled = process.handled ++ [message])
    (puts : after.puts = process.puts) (waiting : after.waiting = process.waiting)
    (refs : after.ref = process.ref) (processed : after.processed = process.processed) :
    Inv config after := by
  have last : standing after = process.handled.length := by
    simp [standing, handled]
  have here : after.handled[standing after]? = some message := by
    rw [last, handled, List.getElem?_append_right (Nat.le_refl _), Nat.sub_self]
    rfl
  have sameVisits : visits after = visits process := by
    unfold visits
    rw [puts, handled]
    apply List.filterMap_congr
    intro put member
    exact visit_append _ _ _ (inv.made put member)
  have newVisits : leftVisits after = exclusiveVisits message targets := by
    rw [leftVisits, distributing]
    exact visit_standing _ _ _ here targets
  have oldVisits : leftVisits process = [] := by
    rw [leftVisits, idle]
    rfl
  constructor
  · intro threadType
    rw [moved.threads]
    exact inv.same threadType
  · intro _
    rw [handled]
    exact List.append_ne_nil_of_right_ne_nil _ (List.cons_ne_nil _ _)
  · intro put member
    rw [puts] at member
    have earlier := inv.made put member
    rw [handled, List.length_append]
    omega
  · intro packet other found
    have samePuts : putsOf after packet = putsOf process packet := by
      rw [putsOf, puts]
      rfl
    rw [samePuts, left, last, distributing]
    rw [handled] at found
    by_cases earlier : packet < process.handled.length
    · rw [List.getElem?_append_left earlier] at found
      have law := inv.fans packet other found
      rw [left, idle, Option.getD_none, ite_self] at law
      rw [if_neg (by omega)]
      exact law
    · have same : packet = process.handled.length := by
        have bound := (List.getElem?_eq_some_iff.mp found).1
        simp only [List.length_append, List.length_singleton] at bound
        omega
      subst same
      rw [List.getElem?_append_right (Nat.le_refl _), Nat.sub_self] at found
      cases found
      rw [puts_beyond inv, if_pos rfl]
      exact fans
  · intro collector held
    rw [sameVisits, newVisits]
    have configured := moved.threads mysqlThread
    rw [held, Option.map_some] at configured
    obtain ⟨earlier, there, same⟩ := Option.map_eq_some_iff.mp configured.symm
    obtain ⟨found, atAfter, rule⟩ := moved.rotation earlier there
    rw [held] at atAfter
    cases atAfter
    obtain ⟨rotates, points⟩ := inv.rotates earlier there
    rw [oldVisits, List.append_nil] at rotates points
    by_cases alone : single message = true
    · rw [if_pos alone] at rule
      rw [rule.1, rule.2]
      have next := points_next (threads_nodup earlier.threads) points
      constructor
      · rw [← same]
        exact rotates_snoc rotates points
      · rw [List.length_append, List.length_singleton]
        cases collector
        dsimp only at same
        subst same
        exact next
    · rw [if_neg alone] at rule
      rw [rule.1, rule.2, List.append_nil]
      cases collector
      dsimp only at same
      subst same
      exact ⟨rotates, points⟩
  · intro packet
    rw [refs, puts, processed]
    exact inv.refs packet
  · intro target
    rw [puts, processed, waiting]
    exact inv.lists target

theorem take_up_inv {config : Table Nat Threads} {process : Process} (message : Message)
    (inv : Inv config process) (idle : process.distributing = none) :
    Inv config (takeUp process message) := by
  unfold takeUp
  cases found : targetsOf process.collectors message with
  | some given =>
      obtain ⟨targets, collectors⟩ := given
      obtain ⟨fans, moved⟩ := targets_of_spec inv.same found
      exact taken_up_inv inv idle fans moved rfl rfl rfl rfl rfl rfl
  | none =>
      dsimp only
      have fans : FansOut config [] message := targets_of_none inv.same found
      refine taken_up_inv inv idle fans ?_ (by rw [idle]; rfl) rfl rfl rfl rfl rfl
      refine ⟨fun _ => rfl, ?_⟩
      intro collector held
      refine ⟨collector, held, ?_⟩
      cases message with
      | dispatched msgId => cases found
      | create threadType isToAllThread =>
          have other : threadType ≠ mysqlThread := by
            intro mine
            subst mine
            simp only [targetsOf, held] at found
            split at found <;> cases found
          simp [single, other, exclusiveVisits]

theorem add_packet_inv {config : Table Nat Threads} {process : Process} {target : Target}
    {rest : List Target} (inv : Inv config process)
    (distributing : process.distributing = some (target :: rest)) :
    Inv config (addPacketToList process target rest) := by
  have busy : process.handled ≠ [] := inv.busy (by rw [distributing]; exact Option.some_ne_none _)
  have positive : 0 < process.handled.length := List.length_pos_iff.mpr busy
  have inside : standing process < process.handled.length := by
    unfold standing
    omega
  have stays : standing (addPacketToList process target rest) = standing process := rfl
  have moves : visits (addPacketToList process target rest) ++
      leftVisits (addPacketToList process target rest) = visits process ++ leftVisits process := by
    unfold visits leftVisits
    rw [stays, distributing]
    simp only [addPacketToList, List.filterMap_append, List.append_assoc, Option.getD_some]
    congr 1
    rw [List.filterMap_cons, List.filterMap_cons, List.filterMap_nil]
    cases visit process.handled (target, standing process) <;> rfl
  refine ⟨inv.same, fun _ => busy, ?_, ?_, ?_, ?_, ?_⟩
  · intro put member
    rcases List.mem_append.mp member with earlier | now
    · exact inv.made put earlier
    · rw [List.mem_singleton.mp now]
      exact inside
  · intro packet message here
    have law := inv.fans packet message here
    have joined : putsOf (addPacketToList process target rest) packet ++
        left (addPacketToList process target rest) packet =
          putsOf process packet ++ left process packet := by
      unfold putsOf left
      rw [stays, distributing]
      simp only [addPacketToList, List.filter_append, List.map_append, Option.getD_some]
      by_cases mine : packet = standing process
      · simp [mine]
      · simp [mine, Ne.symm mine]
    rw [joined]
    exact law
  · intro collector held
    rw [moves]
    exact inv.rotates collector held
  · intro packet
    have count := inv.refs packet
    simp only [addPacketToList, occurrences, List.countP_append, List.countP_singleton] at count ⊢
    by_cases mine : packet = standing process
    · subst mine
      rw [Function.update_self, count]
      simp only [decide_true, if_true]
      omega
    · rw [Function.update_of_ne mine, count]
      simp [Ne.symm mine]
  · intro other
    have queued := inv.lists other
    simp only [addPacketToList, atTarget, List.filter_append, List.map_append] at queued ⊢
    by_cases mine : other = target
    · subst mine
      rw [Function.update_self, queued]
      simp
    · rw [Function.update_of_ne mine, queued]
      simp [Ne.symm mine]

theorem open_ref_inv {config : Table Nat Threads} {process : Process} (inv : Inv config process)
    (distributing : process.distributing = some []) : Inv config (openRef process) := by
  have sameLeft : ∀ packet, left (openRef process) packet = left process packet := by
    intro packet
    unfold left
    rw [distributing]
    rfl
  have sameVisits : leftVisits (openRef process) = leftVisits process := by
    unfold leftVisits
    rw [distributing]
    rfl
  refine ⟨inv.same, fun busy => absurd rfl busy, inv.made, ?_, ?_, inv.refs, inv.lists⟩
  · intro packet message here
    rw [sameLeft]
    exact inv.fans packet message here
  · intro collector held
    rw [sameVisits]
    exact inv.rotates collector held

theorem processed_inv {config : Table Nat Threads} {process : Process} {target : Target}
    {packet : Nat} {rest : List Nat} (inv : Inv config process)
    (waiting : process.waiting target = packet :: rest) :
    Inv config (processed process target packet rest) := by
  refine ⟨inv.same, inv.busy, inv.made, inv.fans, inv.rotates, ?_, ?_⟩
  · intro other
    have count := inv.refs other
    simp only [processed, occurrences, List.countP_append, List.countP_singleton] at count ⊢
    by_cases mine : other = packet
    · subst mine
      rw [Function.update_self, count]
      simp only [decide_true, if_true]
      omega
    · rw [Function.update_of_ne mine, count]
      simp [Ne.symm mine]
  · intro other
    have queued := inv.lists other
    simp only [processed, atTarget, List.filter_append, List.map_append] at queued ⊢
    by_cases mine : other = target
    · subst mine
      rw [Function.update_self, queued, waiting]
      simp
    · rw [Function.update_of_ne mine, queued]
      simp [Ne.symm mine]

theorem step_inv {config : Table Nat Threads} {before after : Process} {event : Event}
    (inv : Inv config before) (taken : Step before event after) : Inv config after := by
  cases taken with
  | takeUp message idle => exact take_up_inv message inv idle
  | addPacketToList target rest distributing => exact add_packet_inv inv distributing
  | openRef distributing => exact open_ref_inv inv distributing
  | update target packet rest waiting => exact processed_inv inv waiting

end GameBook.ThreadDispatch
