import GameBook.LabelledRun
import GameBook.OrderedMap
import GameBook.SocketObject

/-!
A robot of the load test: a client that goes from state to state, from the http
request to the world. `StateTemplateMgr` changes its state, `RobotCollection`
hands it what the servers answer. Following a null pointer is the result `none`.
-/

namespace GameBook.Robots

open SocketObject

inductive RobotStateType where
  | httpConnecting
  | httpConnected
  | loginConnecting
  | loginConnected
  | loginLogined
  | loginSelectPlayer
  | gameConnecting
  | gameConnected
  | gameLogined
  | spaceEnterWorld
  deriving DecidableEq, Repr

/-- The value of a state; `RobotStateType::End` is 10. -/
def number : RobotStateType → Nat
  | .httpConnecting => 0
  | .httpConnected => 1
  | .loginConnecting => 2
  | .loginConnected => 3
  | .loginLogined => 4
  | .loginSelectPlayer => 5
  | .gameConnecting => 6
  | .gameConnected => 7
  | .gameLogined => 8
  | .spaceEnterWorld => 9

def endNumber : Nat := 10

structure LoginAddress where
  ip : Str
  port : Int
  deriving DecidableEq, Repr

structure GameToken where
  token : Str
  ip : Str
  port : Int
  deriving DecidableEq, Repr

/-- What a robot sends: to `RobotMgr`, to the threads of its connections, over
its connection. -/
inductive Sent where
  | syncState (state : RobotStateType)
  | requestDisconnect (socketKey : SocketKey)
  | connectHttp
  | connectLogin (address : LoginAddress)
  | connectGame (token : GameToken)
  | httpLogin
  | accountCheck
  | createPlayer
  | selectPlayer (playerSn : UInt64)
  | loginByToken (token : Str)
  deriving DecidableEq, Repr

structure Robot where
  account : Str
  state : Option RobotStateType
  socketKey : SocketKey
  login : Option LoginAddress
  token : Option GameToken
  worldId : Int
  sent : List Sent
  deriving DecidableEq, Repr

def noKey : SocketKey := ⟨-1, .none⟩

def awake (account : Str) : Robot := ⟨account, none, noKey, none, none, 0, []⟩

def send (r : Robot) (message : Sent) : Robot := { r with sent := r.sent ++ [message] }

def networkDisconnect (r : Robot) : Robot :=
  if r.socketKey.socket = -1 then r
  else { send r (.requestDisconnect r.socketKey) with socketKey := noKey }

def onEnterState (r : Robot) : RobotStateType → Option Robot
  | .httpConnecting => some (send r .connectHttp)
  | .httpConnected => some (send r .httpLogin)
  | .loginConnecting =>
      let closed := networkDisconnect r
      closed.login.map fun address => send closed (.connectLogin address)
  | .loginConnected => some (send r .accountCheck)
  | .gameConnecting =>
      let closed := networkDisconnect r
      closed.token.map fun token => send closed (.connectGame token)
  | .gameConnected => r.token.map fun token => send r (.loginByToken token.token)
  | .loginLogined | .loginSelectPlayer | .gameLogined | .spaceEnterWorld => some r

/-- `RobotState::EnterState`: the robot tells `RobotMgr` first. -/
def enterState (r : Robot) (state : RobotStateType) : Option Robot :=
  onEnterState (send r (.syncState state)) state

/-- Every state is registered, and none does anything in `LeaveState`. -/
def changeState (r : Robot) (state : RobotStateType) : Option Robot :=
  if r.state = some state then some r else enterState { r with state := some state } state

def onUpdate (r : Robot) (state : RobotStateType) : RobotStateType :=
  match state with
  | .httpConnecting =>
      if r.socketKey.socket ≠ -1 ∧ r.socketKey.netType = .httpConnector then .httpConnected else state
  | .loginConnecting =>
      if r.socketKey.socket ≠ -1 ∧ r.socketKey.netType = .tcpConnector then .loginConnected else state
  | .gameConnecting =>
      if r.socketKey.socket ≠ -1 ∧ r.socketKey.netType = .tcpConnector then .gameConnected else state
  | _ => state

/-- `RobotState::Update`: without a connection the login begins anew. -/
def stateUpdate (r : Robot) (state : RobotStateType) : RobotStateType :=
  if number state > number .loginConnecting ∧ state ≠ .gameConnecting ∧ r.socketKey.socket = -1 then
    .loginConnecting
  else onUpdate r state

def updateState (r : Robot) : Option Robot := do
  let r ← if r.state = none then changeState r .httpConnecting else some r
  let state ← r.state
  if stateUpdate r state ≠ state then changeState r (stateUpdate r state) else some r

/-! ### What the servers answer -/

/-- The messages of `RobotCollection` for a robot. Of an http response there is
the return code with the address, where the text is json; of the other answers
whether they are the good ones. -/
inductive Event where
  | update
  | networkConnected (socketKey : SocketKey)
  | networkDisconnect (socketKey : SocketKey)
  | httpOuterResponse (statusCode : Int) (answer : Option (Int × LoginAddress))
  | accountCheckRs (returnCode : Int)
  | playerList (players : List UInt64)
  | gameToken (returnCode : Int) (token : GameToken)
  | loginByTokenRs (returnCode : Int)
  | enterWorld (worldId : Int)

def handleNetworkDisconnect (r : Robot) (socketKey : SocketKey) : Robot :=
  if r.socketKey.netType ≠ socketKey.netType then r else { r with socketKey := noKey }

/-- `AddComponent` keeps a component that is there. -/
def handleHttpOuterResponse (r : Robot) (statusCode : Int) (answer : Option (Int × LoginAddress)) :
    Option Robot :=
  if statusCode = 200 then
    match answer with
    | none => some r
    | some (returnCode, address) =>
        if returnCode = 0 then changeState { r with login := r.login.or (some address) } .loginConnecting
        else some r
  else some r

/-- `ARC_OK` is 0, `ARC_ONLINE` the last of `AccountCheckReturnCode`. -/
def isAccountCheckReturnCode (code : Int) : Prop := 0 ≤ code ∧ code ≤ 6

instance (code : Int) : Decidable (isAccountCheckReturnCode code) := inferInstanceAs (Decidable (_ ∧ _))

/-- The warning has the name of the code in it; of another number
`FindValueByNumber` finds none. -/
def handleAccountCheckRs (r : Robot) (returnCode : Int) : Option Robot :=
  if returnCode = 0 then changeState r .loginLogined
  else if isAccountCheckReturnCode returnCode then some r
  else none

def handlePlayerList (r : Robot) (players : List UInt64) : Option Robot :=
  match players with
  | [] => some (send r .createPlayer)
  | playerSn :: _ => changeState (send r (.selectPlayer playerSn)) .loginSelectPlayer

def enterWorld (r : Robot) (worldId : Int) : Option Robot :=
  match r.state with
  | none => none
  | some _ => changeState { r with worldId := worldId } .spaceEnterWorld

def handle (r : Robot) : Event → Option Robot
  | .update => updateState r
  | .networkConnected socketKey => some { r with socketKey := socketKey }
  | .networkDisconnect socketKey => some (handleNetworkDisconnect r socketKey)
  | .httpOuterResponse statusCode answer => handleHttpOuterResponse r statusCode answer
  | .accountCheckRs returnCode => handleAccountCheckRs r returnCode
  | .playerList players => handlePlayerList r players
  | .gameToken returnCode token =>
      if returnCode = 0 then changeState { r with token := some token } .gameConnecting else some r
  | .loginByTokenRs returnCode => if returnCode = 0 then changeState r .gameLogined else some r
  | .enterWorld worldId => enterWorld r worldId

def askedHttp (r : Robot) : Prop := .connectHttp ∈ r.sent

def isTcpConnect : Sent → Bool
  | .connectLogin _ | .connectGame _ => true
  | _ => false

def askedTcp (r : Robot) : Prop := ∃ message ∈ r.sent, isTcpConnect message = true

/-- Something comes over a connection only when the robot has asked for one, and
the return codes are those there are. -/
def Possible (r : Robot) : Event → Prop
  | .update => True
  | .networkConnected socketKey | .networkDisconnect socketKey =>
      socketKey.netType = .httpConnector ∧ askedHttp r ∨ socketKey.netType = .tcpConnector ∧ askedTcp r
  | .httpOuterResponse _ _ => askedHttp r
  | .accountCheckRs returnCode => askedTcp r ∧ isAccountCheckReturnCode returnCode
  | _ => askedTcp r

def robotStep (before : Robot) (event : Event) (after : Robot) : Prop :=
  Possible before event ∧ handle before event = some after

def told (before after : Robot) : List RobotStateType :=
  (after.sent.drop before.sent.length).filterMap fun
    | .syncState state => some state
    | _ => none

/-! ### One change of the state -/

def Equipped (r : Robot) (state : RobotStateType) : Prop :=
  (state = .loginConnecting → r.login.isSome) ∧
  (state = .gameConnecting ∨ state = .gameConnected → r.token.isSome)

/-- The first is a robot that does something else than to change its state, the
second one that sends besides. -/
structure Alike (r after : Robot) : Prop where
  account : after.account = r.account
  state : after.state = r.state
  login : after.login = r.login
  token : after.token = r.token

theorem told_append {before after : Robot} (more : List Sent) (sent : after.sent = before.sent ++ more) :
    told before after = more.filterMap fun
      | .syncState state => some state
      | _ => none := by
  rw [told, sent, List.drop_left]

theorem told_self (r : Robot) : told r r = [] := by
  rw [told_append [] (List.append_nil _).symm]
  rfl

def Quiet (r : Robot) (state : RobotStateType) (more : List Sent) : Prop :=
  ∀ message ∈ more, (∀ told, message ≠ .syncState told) ∧
    (isTcpConnect message = true → r.login.isSome ∨ state = .gameConnecting)

theorem network_disconnect_spec (r : Robot) (state : RobotStateType) :
    Alike r (networkDisconnect r) ∧ ∃ more, (networkDisconnect r).sent = r.sent ++ more ∧ Quiet r state more := by
  unfold networkDisconnect
  by_cases closed : r.socketKey.socket = -1
  · rw [if_pos closed]
    exact ⟨⟨rfl, rfl, rfl, rfl⟩, [], (List.append_nil _).symm, by simp [Quiet]⟩
  · rw [if_neg closed]
    exact ⟨⟨rfl, rfl, rfl, rfl⟩, _, rfl, by simp [Quiet, isTcpConnect]⟩

theorem on_enter_state_spec {r : Robot} {state : RobotStateType} (equipped : Equipped r state) :
    ∃ after, onEnterState r state = some after ∧ Alike r after ∧
      ∃ more, after.sent = r.sent ++ more ∧ Quiet r state more := by
  obtain ⟨closed, more, sent, quiet⟩ := network_disconnect_spec r state
  have still : ∃ after, some r = some after ∧ Alike r after ∧
      ∃ more, after.sent = r.sent ++ more ∧ Quiet r state more :=
    ⟨r, rfl, ⟨rfl, rfl, rfl, rfl⟩, [], (List.append_nil _).symm, by simp [Quiet]⟩
  cases state with
  | httpConnecting => exact ⟨_, rfl, ⟨rfl, rfl, rfl, rfl⟩, _, rfl, by simp [Quiet, isTcpConnect]⟩
  | httpConnected => exact ⟨_, rfl, ⟨rfl, rfl, rfl, rfl⟩, _, rfl, by simp [Quiet, isTcpConnect]⟩
  | loginConnected => exact ⟨_, rfl, ⟨rfl, rfl, rfl, rfl⟩, _, rfl, by simp [Quiet, isTcpConnect]⟩
  | loginLogined => exact still
  | loginSelectPlayer => exact still
  | gameLogined => exact still
  | spaceEnterWorld => exact still
  | loginConnecting =>
      have some := equipped.1 rfl
      obtain ⟨address, login⟩ := Option.isSome_iff_exists.mp some
      refine ⟨send (networkDisconnect r) (.connectLogin address), ?_,
        ⟨closed.account, closed.state, closed.login, closed.token⟩, more ++ [.connectLogin address], ?_, ?_⟩
      · simp only [onEnterState, closed.login, login, Option.map_some]
      · rw [send, sent, List.append_assoc]
      · intro message member
        rcases List.mem_append.mp member with early | last
        · exact quiet message early
        · rw [List.mem_singleton.mp last]
          exact ⟨by simp, fun _ => .inl some⟩
  | gameConnecting =>
      obtain ⟨token, held⟩ := Option.isSome_iff_exists.mp (equipped.2 (.inl rfl))
      refine ⟨send (networkDisconnect r) (.connectGame token), ?_,
        ⟨closed.account, closed.state, closed.login, closed.token⟩, more ++ [.connectGame token], ?_, ?_⟩
      · simp only [onEnterState, closed.token, held, Option.map_some]
      · rw [send, sent, List.append_assoc]
      · intro message member
        rcases List.mem_append.mp member with early | last
        · exact quiet message early
        · rw [List.mem_singleton.mp last]
          exact ⟨by simp, fun _ => .inr rfl⟩
  | gameConnected =>
      obtain ⟨token, held⟩ := Option.isSome_iff_exists.mp (equipped.2 (.inr rfl))
      refine ⟨send r (.loginByToken token.token), ?_, ⟨rfl, rfl, rfl, rfl⟩, _, rfl, by simp [Quiet, isTcpConnect]⟩
      simp only [onEnterState, held, Option.map_some]

structure Changed (r : Robot) (target : RobotStateType) (after : Robot) : Prop where
  account : after.account = r.account
  login : after.login = r.login
  token : after.token = r.token
  state : after.state = some target
  sent : ∃ more, after.sent = r.sent ++ more ∧
    told r after = (if r.state = some target then [] else [target]) ∧
    ∀ message ∈ more, isTcpConnect message = true → r.login.isSome ∨ target = .gameConnecting

theorem change_state_spec {r : Robot} {state : RobotStateType} (equipped : Equipped r state) :
    ∃ after, changeState r state = some after ∧ Changed r state after := by
  by_cases same : r.state = some state
  · refine ⟨r, by rw [changeState, if_pos same], rfl, rfl, rfl, same, [], (List.append_nil _).symm, ?_, by simp⟩
    rw [if_pos same, told_self]
  · obtain ⟨after, entered, alike, more, sent, quiet⟩ :=
      @on_enter_state_spec (send { r with state := some state } (.syncState state)) state equipped
    have whole : after.sent = r.sent ++ (.syncState state :: more) := by
      rw [sent, send, List.append_assoc]
      rfl
    refine ⟨after, by rw [changeState, if_neg same]; exact entered, alike.account, alike.login, alike.token,
      alike.state, _, whole, ?_, ?_⟩
    · rw [told_append _ whole, if_neg same, List.filterMap_cons, List.filterMap_eq_nil_iff.mpr]
      intro message member
      cases message with
      | syncState other => exact absurd rfl ((quiet _ member).1 other)
      | _ => rfl
    · intro message member connects
      rcases List.mem_cons.mp member with rfl | later
      · cases connects
      · exact (quiet message later).2 connects

/-! ### No null pointer -/

/-- A robot that is in the login has its address, one on its way to the game a token. -/
structure Sound (r : Robot) : Prop where
  begun : r.state = none → r.sent = []
  asked : askedTcp r → r.login.isSome
  address : ∀ state, r.state = some state → 2 ≤ number state → r.login.isSome
  token : ∀ state, r.state = some state → state = .gameConnecting ∨ state = .gameConnected → r.token.isSome

theorem sound_changed {r after : Robot} {target : RobotStateType} (sound : Sound r)
    (login : 2 ≤ number target → r.login.isSome) (equipped : Equipped r target) (changed : Changed r target after) :
    Sound after where
  begun := by
    intro none
    rw [changed.state] at none
    cases none
  asked := by
    obtain ⟨more, sent, _, tcp⟩ := changed.sent
    rintro ⟨message, member, connects⟩
    rw [changed.login]
    rw [sent] at member
    rcases List.mem_append.mp member with early | late
    · exact sound.asked ⟨message, early, connects⟩
    · rcases tcp message late connects with held | rfl
      · exact held
      · exact login (by decide)
  address := by
    intro state here far
    rw [changed.state] at here
    cases here
    rw [changed.login]
    exact login far
  token := by
    intro state here game
    rw [changed.state] at here
    cases here
    rw [changed.token]
    exact equipped.2 game

/-- The states one after the other, each at most one above the last. -/
inductive Climb : Option RobotStateType → List RobotStateType → Option RobotStateType → Prop where
  | still (state) : Climb state [] state
  | next {before after : Option RobotStateType} (state : RobotStateType) {rest : List RobotStateType} :
      (∀ last, before = some last → number state ≤ number last + 1) → (before = none → number state = 0) →
      Climb (some state) rest after → Climb before (state :: rest) after

theorem climb_append {before middle after : Option RobotStateType} {first second : List RobotStateType}
    (one : Climb before first middle) (other : Climb middle second after) : Climb before (first ++ second) after := by
  induction one with
  | still _ => exact other
  | next state above zero _ ih => exact .next state above zero (ih other)

theorem climb_changed {r after : Robot} {target : RobotStateType} (changed : Changed r target after)
    (above : ∀ last, r.state = some last → number target ≤ number last + 1)
    (zero : r.state = none → number target = 0) : Climb r.state (told r after) after.state := by
  obtain ⟨_, _, told, _⟩ := changed.sent
  rw [told, changed.state]
  by_cases same : r.state = some target
  · rw [if_pos same, same]
    exact .still _
  · rw [if_neg same]
    exact .next target above zero (.still _)

/-- An answer comes to a robot that has asked for it on this connection. -/
def InTurn (r : Robot) : Event → Prop
  | .update | .networkConnected _ | .networkDisconnect _ => True
  | .httpOuterResponse _ _ => ∃ state, r.state = some state ∧ number .httpConnected ≤ number state
  | .accountCheckRs _ => ∃ state, r.state = some state ∧ number .loginConnected ≤ number state
  | .playerList _ => ∃ state, r.state = some state ∧ number .loginLogined ≤ number state
  | .gameToken _ _ => ∃ state, r.state = some state ∧ number .loginSelectPlayer ≤ number state
  | .loginByTokenRs _ => ∃ state, r.state = some state ∧ number .gameConnected ≤ number state
  | .enterWorld _ => ∃ state, r.state = some state ∧ number .gameLogined ≤ number state

structure Handled (r : Robot) (turn : Prop) (after : Robot) : Prop where
  sound : Sound after
  account : after.account = r.account
  sent : ∃ more, after.sent = r.sent ++ more
  climb : turn → Climb r.state (told r after) after.state

theorem handled_self {r after : Robot} (turn : Prop) (sound : Sound after) (account : after.account = r.account)
    (state : after.state = r.state) (sent : after.sent = r.sent) : Handled r turn after := by
  have whole : after.sent = r.sent ++ [] := sent.trans (List.append_nil _).symm
  refine ⟨sound, account, ⟨[], whole⟩, fun _ => ?_⟩
  rw [told_append [] whole, state]
  exact .still _

theorem handled_changed {r after : Robot} {target : RobotStateType} {turn : Prop} (sound : Sound r)
    (login : 2 ≤ number target → r.login.isSome) (equipped : Equipped r target) (changed : Changed r target after)
    (above : turn → ∀ last, r.state = some last → number target ≤ number last + 1)
    (zero : turn → r.state = none → number target = 0) : Handled r turn after := by
  obtain ⟨more, sent, _⟩ := changed.sent
  exact ⟨sound_changed sound login equipped changed, changed.account, ⟨more, sent⟩,
    fun holds => climb_changed changed (above holds) (zero holds)⟩

theorem answer_handled {r : Robot} {target lowest : RobotStateType} {turn : Prop} (sound : Sound r)
    (login : r.login.isSome) (equipped : Equipped r target) (next : number target ≤ number lowest + 1)
    (reached : turn → ∃ state, r.state = some state ∧ number lowest ≤ number state) :
    ∃ after, changeState r target = some after ∧ Handled r turn after := by
  obtain ⟨after, done, changed⟩ := change_state_spec equipped
  refine ⟨after, done, handled_changed sound (fun _ => login) equipped changed ?_ ?_⟩
  · intro holds last here
    obtain ⟨state, there, far⟩ := reached holds
    rw [here] at there
    cases there
    omega
  · intro holds none
    obtain ⟨state, there, _⟩ := reached holds
    rw [none] at there
    cases there

theorem told_trans {first second third : Robot} (one : ∃ more, second.sent = first.sent ++ more)
    (other : ∃ more, third.sent = second.sent ++ more) :
    told first third = told first second ++ told second third := by
  obtain ⟨more, sent⟩ := one
  obtain ⟨later, sentLater⟩ := other
  have whole : third.sent = first.sent ++ (more ++ later) := by rw [sentLater, sent, List.append_assoc]
  rw [told_append _ whole, told_append _ sent, told_append _ sentLater, List.filterMap_append]

theorem handled_trans {first second third : Robot} {turn : Prop} (one : Handled first turn second)
    (other : Handled second turn third) : Handled first turn third where
  sound := other.sound
  account := other.account.trans one.account
  sent := by
    obtain ⟨more, sent⟩ := one.sent
    obtain ⟨later, sentLater⟩ := other.sent
    exact ⟨more ++ later, by rw [sentLater, sent, List.append_assoc]⟩
  climb := by
    intro holds
    rw [told_trans one.sent other.sent]
    exact climb_append (one.climb holds) (other.climb holds)

theorem state_update_cases (r : Robot) (state : RobotStateType) :
    stateUpdate r state = state ∨ (stateUpdate r state = .loginConnecting ∧ 2 < number state) ∨
    (state = .httpConnecting ∧ stateUpdate r state = .httpConnected) ∨
    (state = .loginConnecting ∧ stateUpdate r state = .loginConnected) ∨
    (state = .gameConnecting ∧ stateUpdate r state = .gameConnected) := by
  unfold stateUpdate
  by_cases lost : number state > number .loginConnecting ∧ state ≠ .gameConnecting ∧ r.socketKey.socket = -1
  · rw [if_pos lost]
    exact .inr (.inl ⟨rfl, lost.1⟩)
  · rw [if_neg lost]
    unfold onUpdate
    cases state with
    | httpConnecting =>
        dsimp only
        split
        · exact .inr (.inr (.inl ⟨rfl, rfl⟩))
        · exact .inl rfl
    | loginConnecting =>
        dsimp only
        split
        · exact .inr (.inr (.inr (.inl ⟨rfl, rfl⟩)))
        · exact .inl rfl
    | gameConnecting =>
        dsimp only
        split
        · exact .inr (.inr (.inr (.inr ⟨rfl, rfl⟩)))
        · exact .inl rfl
    | httpConnected => exact .inl rfl
    | loginConnected => exact .inl rfl
    | loginLogined => exact .inl rfl
    | loginSelectPlayer => exact .inl rfl
    | gameConnected => exact .inl rfl
    | gameLogined => exact .inl rfl
    | spaceEnterWorld => exact .inl rfl

theorem update_handled {r : Robot} {state : RobotStateType} (sound : Sound r) (here : r.state = some state) :
    ∃ after, (if stateUpdate r state ≠ state then changeState r (stateUpdate r state) else some r) = some after ∧
      Handled r True after := by
  by_cases stays : stateUpdate r state = state
  · exact ⟨r, if_neg (not_not_intro stays), handled_self True sound rfl rfl rfl⟩
  · rw [if_pos stays]
    -- a robot that has lost its connection is past the login's address, so it has one
    have equipped : Equipped r (stateUpdate r state) ∧ (2 ≤ number (stateUpdate r state) → r.login.isSome) ∧
        number (stateUpdate r state) ≤ number state + 1 := by
      rcases state_update_cases r state with same | ⟨again, far⟩ | ⟨rfl, next⟩ | ⟨rfl, next⟩ | ⟨rfl, next⟩
      · exact absurd same stays
      · rw [again]
        have login := sound.address state here (by omega)
        refine ⟨⟨fun _ => login, by simp⟩, fun _ => login, ?_⟩
        show 2 ≤ number state + 1
        omega
      · rw [next]
        exact ⟨⟨by simp, by simp⟩, by simp [number], by decide⟩
      · rw [next]
        have login := sound.address _ here (by decide)
        exact ⟨⟨fun _ => login, by simp⟩, fun _ => login, by decide⟩
      · rw [next]
        have login := sound.address _ here (by decide)
        exact ⟨⟨fun _ => login, fun _ => sound.token _ here (.inl rfl)⟩, fun _ => login, by decide⟩
    obtain ⟨after, done, changed⟩ := change_state_spec equipped.1
    refine ⟨after, done, handled_changed sound equipped.2.1 equipped.1 changed ?_ ?_⟩
    · intro _ last there
      rw [here] at there
      cases there
      exact equipped.2.2
    · intro _ none
      rw [here] at none
      cases none

theorem update_state_handled {r : Robot} (sound : Sound r) :
    ∃ after, updateState r = some after ∧ Handled r True after := by
  cases here : r.state with
  | some state =>
      obtain ⟨after, done, handled⟩ := update_handled sound here
      refine ⟨after, ?_, handled⟩
      simp only [updateState, here, reduceCtorEq, if_false, Option.bind_eq_bind, Option.bind_some]
      exact done
  | none =>
      have equipped : Equipped r .httpConnecting := ⟨by simp, by simp⟩
      obtain ⟨first, begun, changed⟩ := change_state_spec equipped
      have one : Handled r True first := by
        refine handled_changed sound (by simp [number]) equipped changed ?_ (fun _ _ => rfl)
        intro _ last there
        rw [here] at there
        cases there
      obtain ⟨after, done, other⟩ := update_handled one.sound changed.state
      refine ⟨after, ?_, handled_trans one other⟩
      simp only [updateState, here, if_true, begun, changed.state, Option.bind_eq_bind, Option.bind_some]
      exact done

theorem asked_begun {r : Robot} (sound : Sound r) (message : Sent) (member : message ∈ r.sent) :
    ∃ state, r.state = some state := by
  cases here : r.state with
  | none =>
      rw [sound.begun here] at member
      cases member
  | some state => exact ⟨state, rfl⟩

theorem sound_alike {r after : Robot} (sound : Sound r) (sent : after.sent = r.sent) (state : after.state = r.state)
    (login : r.login.isSome → after.login.isSome) (token : r.token.isSome → after.token.isSome) : Sound after where
  begun := by
    rw [sent, state]
    exact sound.begun
  asked := by
    intro asked
    rw [askedTcp, sent] at asked
    exact login (sound.asked asked)
  address := by
    intro other here far
    rw [state] at here
    exact login (sound.address other here far)
  token := by
    intro other here game
    rw [state] at here
    exact token (sound.token other here game)

theorem answered {r before : Robot} {target lowest : RobotStateType} {turn : Prop} (first : Handled r turn before)
    (state : before.state = r.state) (login : before.login.isSome) (equipped : Equipped before target)
    (next : number target ≤ number lowest + 1)
    (reached : turn → ∃ state, r.state = some state ∧ number lowest ≤ number state) :
    ∃ after, changeState before target = some after ∧ Handled r turn after := by
  obtain ⟨after, done, handled⟩ := answer_handled first.sound login equipped next (by rw [state]; exact reached)
  exact ⟨after, done, handled_trans first handled⟩

theorem handle_spec {r : Robot} {event : Event} (sound : Sound r) (possible : Possible r event) :
    ∃ after, handle r event = some after ∧ Handled r (InTurn r event) after := by
  have same : Handled r (InTurn r event) r := handled_self _ sound rfl rfl rfl
  cases event with
  | update =>
      obtain ⟨after, done, handled⟩ := update_state_handled sound
      exact ⟨after, done, handled.sound, handled.account, handled.sent, fun _ => handled.climb trivial⟩
  | networkConnected socketKey =>
      exact ⟨_, rfl, handled_self _ (sound_alike sound rfl rfl id id) rfl rfl rfl⟩
  | networkDisconnect socketKey =>
      by_cases other : r.socketKey.netType ≠ socketKey.netType
      · exact ⟨r, congrArg some (if_pos other), same⟩
      · exact ⟨_, congrArg some (if_neg other), handled_self _ (sound_alike sound rfl rfl id id) rfl rfl rfl⟩
  | httpOuterResponse statusCode answer =>
      by_cases good : statusCode = 200
      · match answer with
        | none => exact ⟨r, if_pos good, same⟩
        | some (returnCode, address) =>
            by_cases ok : returnCode = 0
            · subst ok
              -- `AddComponent` keeps an address that is there, so one is there in any case
              have login : (r.login.or (some address)).isSome := by cases r.login <;> rfl
              obtain ⟨after, done, handled⟩ := @answered r { r with login := r.login.or (some address) }
                .loginConnecting .httpConnected _
                (handled_self _ (sound_alike sound rfl rfl (fun _ => login) id) rfl rfl rfl) rfl login
                ⟨fun _ => login, by simp⟩ (by decide) id
              exact ⟨after, (if_pos good).trans done, handled⟩
            · exact ⟨r, (if_pos good).trans (if_neg ok), same⟩
      · exact ⟨r, if_neg good, same⟩
  | accountCheckRs returnCode =>
      by_cases ok : returnCode = 0
      · have login := sound.asked possible.1
        obtain ⟨after, done, handled⟩ := @answer_handled r .loginLogined .loginConnected _ sound login
          ⟨fun _ => login, by simp⟩ (by decide) id
        exact ⟨after, by rw [handle, handleAccountCheckRs, if_pos ok]; exact done, handled⟩
      · exact ⟨r, by rw [handle, handleAccountCheckRs, if_neg ok, if_pos possible.2], same⟩
  | playerList players =>
      have login := sound.asked possible
      -- the answer to a list may precede the change of state
      have more (message : Sent) (quiet : ∀ state, message ≠ .syncState state) (tcp : isTcpConnect message = false) :
          Handled r (InTurn r (.playerList players)) (send r message) := by
        obtain ⟨message', member, _⟩ := possible
        obtain ⟨state, here⟩ := asked_begun sound message' member
        refine ⟨⟨?_, ?_, sound.address, sound.token⟩, rfl, ⟨[message], rfl⟩, ?_⟩
        · intro none
          have none : r.state = Option.none := none
          rw [here] at none
          cases none
        · intro _
          exact login
        · intro _
          rw [told_append [message] rfl]
          cases message with
          | syncState state => exact absurd rfl (quiet state)
          | _ => exact .still _
      cases players with
      | nil => exact ⟨_, rfl, more _ (by simp) rfl⟩
      | cons playerSn rest =>
          exact @answered r (send r (.selectPlayer playerSn)) .loginSelectPlayer .loginLogined _ (more _ (by simp) rfl)
            rfl login ⟨fun _ => login, by simp⟩ (by decide) id
  | gameToken returnCode token =>
      by_cases ok : returnCode = 0
      · have login := sound.asked possible
        obtain ⟨after, done, handled⟩ := @answered r { r with token := some token } .gameConnecting
          .loginSelectPlayer _ (handled_self _ (sound_alike sound rfl rfl id fun _ => rfl) rfl rfl rfl) rfl login
          ⟨fun _ => login, fun _ => rfl⟩ (by decide) id
        exact ⟨after, by rw [handle, if_pos ok]; exact done, handled⟩
      · exact ⟨r, by rw [handle, if_neg ok], same⟩
  | loginByTokenRs returnCode =>
      by_cases ok : returnCode = 0
      · have login := sound.asked possible
        obtain ⟨after, done, handled⟩ := @answer_handled r .gameLogined .gameConnected _ sound login
          ⟨fun _ => login, by simp⟩ (by decide) id
        exact ⟨after, by rw [handle, if_pos ok]; exact done, handled⟩
      · exact ⟨r, by rw [handle, if_neg ok], same⟩
  | enterWorld worldId =>
      have login := sound.asked possible
      obtain ⟨message, member, _⟩ := possible
      obtain ⟨state, here⟩ := asked_begun sound message member
      obtain ⟨after, done, handled⟩ := @answered r { r with worldId := worldId } .spaceEnterWorld .gameLogined _
        (handled_self _ (sound_alike sound rfl rfl id id) rfl rfl rfl) rfl login ⟨fun _ => login, by simp⟩
        (by decide) id
      refine ⟨after, ?_, handled⟩
      rw [handle, enterWorld]
      split
      · rename_i none
        rw [here] at none
        cases none
      · exact done

theorem sound_awake (account : Str) : Sound (awake account) where
  begun := fun _ => rfl
  asked := by
    rintro ⟨message, member, _⟩
    cases member
  address := by
    intro state here
    cases here
  token := by
    intro state here
    cases here

open LabelledRun

theorem robot_step_sound {before after : Robot} {event : Event} (sound : Sound before)
    (taken : robotStep before event after) : Sound after := by
  obtain ⟨reached, done, handled⟩ := handle_spec sound taken.1
  rw [taken.2] at done
  cases done
  exact handled.sound

/-! ### A robot that is played -/

instance (r : Robot) : Decidable (askedHttp r) := inferInstanceAs (Decidable (_ ∈ _))

instance (r : Robot) : Decidable (askedTcp r) := inferInstanceAs (Decidable (∃ message ∈ r.sent, _))

instance (r : Robot) (event : Event) : Decidable (Possible r event) :=
  match event with
  | .update => inferInstanceAs (Decidable True)
  | .networkConnected _ | .networkDisconnect _ => inferInstanceAs (Decidable (_ ∧ askedHttp r ∨ _ ∧ askedTcp r))
  | .httpOuterResponse _ _ => inferInstanceAs (Decidable (askedHttp r))
  | .accountCheckRs returnCode => inferInstanceAs (Decidable (askedTcp r ∧ isAccountCheckReturnCode returnCode))
  | .playerList _ | .gameToken _ _ | .loginByTokenRs _ | .enterWorld _ => inferInstanceAs (Decidable (askedTcp r))

def play : Robot → List Event → Option Robot
  | r, [] => some r
  | r, event :: rest => if Possible r event then (handle r event).bind fun next => play next rest else none

theorem play_run {r after : Robot} {events : List Event} (played : play r events = some after) :
    Run robotStep r events after := by
  induction events generalizing r with
  | nil =>
      cases played
      exact .refl _
  | cons event rest ih =>
      rw [play] at played
      split at played
      · rename_i possible
        obtain ⟨next, done, later⟩ := Option.bind_eq_some_iff.mp played
        exact .next ⟨possible, done⟩ (ih later)
      · cases played

/-- Whatever the servers answer, and whenever connections come and go, a robot
follows no null pointer: its address and its token are there when they are read. -/
theorem robots_never_fail {account : Str} {events : List Event} {r : Robot}
    (run : Run robotStep (awake account) events r) {event : Event} (possible : Possible r event) :
    (handle r event).isSome := by
  have sound : Sound r := run_invariant Sound (fun _ _ _ sound taken => robot_step_sound sound taken) run
    (sound_awake account)
  obtain ⟨after, done, _⟩ := handle_spec sound possible
  rw [done]
  rfl

def loginEvents : List Event :=
  [.update, .networkConnected ⟨5, .httpConnector⟩, .update, .httpOuterResponse 200 (some (0, ⟨[49], 5401⟩)),
    .networkConnected ⟨6, .tcpConnector⟩, .update, .accountCheckRs 0, .playerList [7],
    .gameToken 0 ⟨[116], [49], 5601⟩, .networkConnected ⟨8, .tcpConnector⟩, .update, .loginByTokenRs 0,
    .enterWorld 3]

theorem robots_never_fail_login :
    (play (awake [97]) loginEvents).map Robot.state = some (some .spaceEnterWorld) ∧
    ∀ r, play (awake [97]) loginEvents = some r → (handle r .update).isSome :=
  ⟨by decide, fun _ played => robots_never_fail (play_run played) trivial⟩

end GameBook.Robots
