import Mathlib.Data.List.Basic
import Mathlib.Logic.Function.Basic

/-!
Sessions handed from holder to holder by messages on one shared log. Every
holder reads the log in order at its own pace. A session enters at one holder
by a login over a link; a hop copies it to another holder, which tells the
source to let it go; the closing of a link is read by every holder. The rules
say which messages may be put on the log so that, once everything is read, each
session stands at one holder and its link is open.
-/

namespace GameBook.Handover

variable {Id Fd Account Sn : Type}

structure Slot (Account Sn : Type) where
  account : Account
  sn : Sn

structure Hop (Id Fd Account Sn : Type) where
  target : Id
  source : Id
  fd : Fd
  account : Account
  sn : Sn

inductive Note (Id Fd Account Sn : Type) where
  | login (fd : Fd) (account : Account)
  | hop (hop : Hop Id Fd Account Sn)
  | left (source : Id) (sn : Sn)
  | closed (fd : Fd) (tagged : Bool)
  | other

structure Holder (Fd Account Sn : Type) where
  cursor : Nat
  slots : Fd → Option (Slot Account Sn)

/-- A link is open while it has a list of the accounts it logged in as. -/
@[ext]
structure Hub (Id Fd Account Sn : Type) where
  log : List (Note Id Fd Account Sn)
  holders : Id → Option (Holder Fd Account Sn)
  links : Fd → Option (List Account)

def Alive (s : Hub Id Fd Account Sn) (fd : Fd) (account : Account) : Prop :=
  ∃ accounts, s.links fd = some accounts ∧ account ∈ accounts

def Present (s : Hub Id Fd Account Sn) (id : Id) (fd : Fd) (slot : Slot Account Sn) : Prop :=
  ∃ holder, s.holders id = some holder ∧ holder.slots fd = some slot

def Ahead (s : Hub Id Fd Account Sn) (id : Id) (place : Nat) : Prop :=
  ∃ holder, s.holders id = some holder ∧ holder.cursor ≤ place

def Leaving (s : Hub Id Fd Account Sn) (id : Id) (sn : Sn) : Prop :=
  ∃ place, Ahead s id place ∧ s.log[place]? = some (.left id sn)

def Flying (s : Hub Id Fd Account Sn) (place : Nat) (hop : Hop Id Fd Account Sn) : Prop :=
  s.log[place]? = some (.hop hop) ∧ Ahead s hop.target place

def Waiting (entry : Id) (s : Hub Id Fd Account Sn) (place : Nat) (fd : Fd) (account : Account) :
    Prop :=
  s.log[place]? = some (.login fd account) ∧ Ahead s entry place

/-- The closing of a link stands at this place of the log or after it. -/
def Closing (s : Hub Id Fd Account Sn) (fd : Fd) (place : Nat) : Prop :=
  ∃ later, place ≤ later ∧ s.log[later]? = some (.closed fd true)

def Quiescent (s : Hub Id Fd Account Sn) : Prop :=
  ∀ id holder, s.holders id = some holder → holder.cursor = s.log.length

/-- Once everything is read, a session's link is open and logged in as its
account, and no account is held twice. -/
structure Settled (s : Hub Id Fd Account Sn) : Prop where
  linked : Quiescent s → ∀ id fd slot, Present s id fd slot → Alive s fd slot.account
  single : Quiescent s → ∀ id other fd another slot twin, Present s id fd slot →
    Present s other another twin → slot.account = twin.account → id = other ∧ fd = another

/-! What a holder does with a message. `unset` is the number of a session that
is not identified yet, `owns` says which numbers are an account's. -/

def Quiet (notes : List (Note Id Fd Account Sn)) : Prop := ∀ note ∈ notes, note = .other

/-- Sessions may go, and an unidentified one may get a number of its account. -/
def Evolves (unset : Sn) (owns : Sn → Account → Prop) (before after : Fd → Option (Slot Account Sn)) :
    Prop :=
  ∀ fd slot, after fd = some slot → ∃ old, before fd = some old ∧ old.account = slot.account ∧
    (old.sn = slot.sn ∨ (old.sn = unset ∧ owns slot.sn slot.account))

def Handled [DecidableEq Fd] (unset : Sn) (owns : Sn → Account → Prop) (entry id : Id)
    (note : Note Id Fd Account Sn) (before after : Fd → Option (Slot Account Sn))
    (new : List (Note Id Fd Account Sn)) : Prop :=
  match note with
  | .login fd account =>
      Quiet new ∧ (after = before ∨
        (id = entry ∧ before fd = none ∧ after = Function.update before fd (some ⟨account, unset⟩)))
  | .hop hop =>
      (after = before ∧ Quiet new) ∨
      (hop.target = id ∧ before hop.fd = none ∧
        after = Function.update before hop.fd (some ⟨hop.account, hop.sn⟩) ∧
        .left hop.source hop.sn ∈ new ∧
        ∀ note ∈ new, note = .other ∨ note = .left hop.source hop.sn)
  | .left source sn =>
      Quiet new ∧ (
        (source ≠ id ∧ after = before) ∨
        ((∀ fd slot, before fd = some slot → slot.sn ≠ sn) ∧ after = before) ∨
        ∃ fd slot, source = id ∧ before fd = some slot ∧ slot.sn = sn ∧
          after = Function.update before fd none)
  | .closed fd tagged =>
      Quiet new ∧ (∀ other slot, after other = some slot → before other = some slot) ∧
        (tagged = true → after fd = none)
  | .other =>
      Evolves unset owns before after ∧
        ∀ note ∈ new, note = .other ∨ ∃ hop, note = .hop hop ∧ hop.source = id ∧
          after hop.fd = some ⟨hop.account, hop.sn⟩ ∧ (id = entry → hop.sn ≠ unset)

/-- One step, labelled with the messages it puts on the log. -/
inductive Move [DecidableEq Id] [DecidableEq Fd] (unset : Sn) (owns : Sn → Account → Prop)
    (entry : Id) :
    Hub Id Fd Account Sn → List (Note Id Fd Account Sn) → Hub Id Fd Account Sn → Prop where
  | opened (s : Hub Id Fd Account Sn) (fd : Fd) : s.links fd = none →
      Move unset owns entry s [] { s with links := Function.update s.links fd (some []) }
  | login (s : Hub Id Fd Account Sn) (fd : Fd) (account : Account) (accounts : List Account) :
      s.links fd = some accounts →
      Move unset owns entry s [.login fd account] { s with
        log := s.log ++ [.login fd account]
        links := Function.update s.links fd (some (account :: accounts)) }
  | closed (s : Hub Id Fd Account Sn) (fd : Fd) (tagged : Bool) (accounts : List Account) : s.links fd = some accounts →
      Move unset owns entry s [.closed fd tagged] { s with
        log := s.log ++ [.closed fd tagged]
        links := Function.update s.links fd none }
  | joined (s : Hub Id Fd Account Sn) (id : Id) (cursor : Nat) : id ≠ entry →
      s.holders id = none → cursor ≤ s.log.length →
      (∀ (place : Nat) (hop : Hop Id Fd Account Sn), s.log[place]? = some (.hop hop) →
        hop.target ≠ id) →
      Move unset owns entry s [] { s with
        holders := Function.update s.holders id (some ⟨cursor, fun _ => none⟩) }
  | parted (s : Hub Id Fd Account Sn) (id : Id) : id ≠ entry →
      Move unset owns entry s [] { s with holders := Function.update s.holders id none }
  | noted (s : Hub Id Fd Account Sn) (new : List (Note Id Fd Account Sn)) :
      (∀ note ∈ new, note = .other ∨ ∃ fd, note = .closed fd false ∧ s.links fd = none) →
      Move unset owns entry s new { s with log := s.log ++ new }
  | handled (s : Hub Id Fd Account Sn) (id : Id) (holder : Holder Fd Account Sn) (note : Note Id Fd Account Sn)
      (after : Fd → Option (Slot Account Sn)) (new : List (Note Id Fd Account Sn)) :
      s.holders id = some holder → s.log[holder.cursor]? = some note →
      Handled unset owns entry id note holder.slots after new →
      Move unset owns entry s new { s with
        log := s.log ++ new
        holders := Function.update s.holders id (some ⟨holder.cursor + 1, after⟩) }

/-- The rules for the messages of a step: an account logs in while nothing of
it is held or under way; a link that logged in closes with its tag; a session
hops while its link is open, it has not been told to go and no other hop of its
account is under way. -/
structure Safe (entry : Id) (s : Hub Id Fd Account Sn) (new : List (Note Id Fd Account Sn)) : Prop where
  logins : ∀ fd account, .login fd account ∈ new →
    (∀ id other slot, Present s id other slot → slot.account ≠ account) ∧
    (∀ place hop, Flying s place hop → hop.account ≠ account) ∧
    ∀ place other, ¬ Waiting entry s place other account
  closes : ∀ fd tagged accounts, .closed fd tagged ∈ new → s.links fd = some accounts →
    accounts ≠ [] → tagged = true
  hops : ∀ hop, .hop hop ∈ new → Alive s hop.fd hop.account ∧ ¬ Leaving s hop.source hop.sn ∧
    ∀ place other, Flying s place other → other.account ≠ hop.account
  single : ∀ (place other : Nat) first second, new[place]? = some (.hop first) →
    new[other]? = some (.hop second) → first.account = second.account → place = other

structure Sound (unset : Sn) (owns : Sn → Account → Prop) (entry : Id)
    (s : Hub Id Fd Account Sn) : Prop where
  bounded : ∀ id holder, s.holders id = some holder → holder.cursor ≤ s.log.length
  anchored : ∀ id fd slot, Present s id fd slot → Alive s fd slot.account ∨
    ∃ place, Ahead s id place ∧ s.log[place]? = some (.closed fd true)
  loginAnchored : ∀ (place : Nat) fd account, s.log[place]? = some (.login fd account) →
    Alive s fd account ∨ Closing s fd (place + 1)
  hopAnchored : ∀ (place : Nat) hop, s.log[place]? = some (.hop hop) →
    Alive s hop.fd hop.account ∨ Closing s hop.fd (place + 1)
  slotOwned : ∀ id fd slot, Present s id fd slot →
    (id = entry ∧ slot.sn = unset) ∨ owns slot.sn slot.account
  hopOwned : ∀ (place : Nat) hop, s.log[place]? = some (.hop hop) → owns hop.sn hop.account
  leftOwned : ∀ (place : Nat) id sn, s.log[place]? = some (.left id sn) → ∃ account, owns sn account
  oneSlot : ∀ id other fd another slot twin, Present s id fd slot → Present s other another twin →
    slot.account = twin.account → fd = another ∧
      (id = other ∨ Leaving s id slot.sn ∨ Leaving s other twin.sn)
  oneHop : ∀ place other hop twin, Flying s place hop → Flying s other twin →
    hop.account = twin.account → place = other
  hopSlot : ∀ place hop id fd slot, Flying s place hop → Present s id fd slot →
    slot.account = hop.account → fd = hop.fd ∧
      ((id = hop.source ∧ slot.sn = hop.sn) ∨ Leaving s id slot.sn)
  waits : ∀ place fd account, Waiting entry s place fd account →
    (∀ id other slot, Present s id other slot → slot.account ≠ account) ∧
    (∀ other hop, Flying s other hop → hop.account ≠ account) ∧
    ∀ other another, Waiting entry s other another account → place = other

theorem settled_of_sound {unset : Sn} {owns : Sn → Account → Prop} {entry : Id}
    {s : Hub Id Fd Account Sn} (sound : Sound unset owns entry s) : Settled s := by
  have read : Quiescent s → ∀ id place note, Ahead s id place → s.log[place]? ≠ some note := by
    rintro quiescent id place note ⟨holder, held, before⟩ there
    have inside := (List.getElem?_eq_some_iff.mp there).1
    rw [quiescent id holder held] at before
    omega
  constructor
  · intro quiescent id fd slot present
    rcases sound.anchored id fd slot present with alive | ⟨place, ahead, closed⟩
    · exact alive
    · exact absurd closed (read quiescent id place _ ahead)
  · intro quiescent id other fd another slot twin first second same
    obtain ⟨sameFd, sameId | ⟨place, ahead, left⟩ | ⟨place, ahead, left⟩⟩ :=
      sound.oneSlot id other fd another slot twin first second same
    · exact ⟨sameId, sameFd⟩
    · exact absurd left (read quiescent id place _ ahead)
    · exact absurd left (read quiescent other place _ ahead)

theorem old_entry {log new : List (Note Id Fd Account Sn)} {place : Nat} {note : Note Id Fd Account Sn}
    (there : log[place]? = some note) : (log ++ new)[place]? = some note := by
  rw [List.getElem?_append_left (List.getElem?_eq_some_iff.mp there).1]
  exact there

theorem entry_cases {log new : List (Note Id Fd Account Sn)} {place : Nat}
    {note : Note Id Fd Account Sn} (there : (log ++ new)[place]? = some note) :
    log[place]? = some note ∨
      (log.length ≤ place ∧ new[place - log.length]? = some note) := by
  rcases Nat.lt_or_ge place log.length with inside | beyond
  · rw [List.getElem?_append_left inside] at there
    exact Or.inl there
  · rw [List.getElem?_append_right beyond] at there
    exact Or.inr ⟨beyond, there⟩

theorem new_entry (log : List (Note Id Fd Account Sn)) {new : List (Note Id Fd Account Sn)}
    {note : Note Id Fd Account Sn} (member : note ∈ new) :
    ∃ place, log.length ≤ place ∧ (log ++ new)[place]? = some note := by
  obtain ⟨index, inside, rfl⟩ := List.getElem_of_mem member
  refine ⟨log.length + index, Nat.le_add_right _ _, ?_⟩
  rw [List.getElem?_append_right (Nat.le_add_right _ _), Nat.add_sub_cancel_left]
  exact List.getElem?_eq_getElem inside

theorem entry_mem {new : List (Note Id Fd Account Sn)} {place : Nat} {note : Note Id Fd Account Sn}
    (there : new[place]? = some note) : note ∈ new :=
  List.mem_of_getElem? there

section Growth

variable {unset : Sn} {owns : Sn → Account → Prop} {entry : Id} {s : Hub Id Fd Account Sn}

def grown (s : Hub Id Fd Account Sn) (new : List (Note Id Fd Account Sn))
    (links : Fd → Option (List Account)) : Hub Id Fd Account Sn :=
  { s with log := s.log ++ new, links := links }

theorem leaving_grown {id : Id} {sn : Sn} (new : List (Note Id Fd Account Sn))
    (links : Fd → Option (List Account)) (leaving : Leaving s id sn) :
    Leaving (grown s new links) id sn := by
  obtain ⟨place, ahead, left⟩ := leaving
  exact ⟨place, ahead, old_entry left⟩

theorem ahead_new (sound : Sound unset owns entry s) {id : Id} {fd : Fd} {slot : Slot Account Sn}
    (present : Present s id fd slot) (place : Nat) (beyond : s.log.length ≤ place) :
    Ahead s id place := by
  obtain ⟨holder, held, -⟩ := present
  exact ⟨holder, held, Nat.le_trans (sound.bounded id holder held) beyond⟩

theorem flying_of_grown {new : List (Note Id Fd Account Sn)} {links : Fd → Option (List Account)}
    {place : Nat} {hop : Hop Id Fd Account Sn} (flies : Flying (grown s new links) place hop) :
    Flying s place hop ∨ (s.log.length ≤ place ∧ new[place - s.log.length]? = some (.hop hop)) := by
  obtain ⟨there, ahead⟩ := flies
  rcases entry_cases there with old | added
  · exact Or.inl ⟨old, ahead⟩
  · exact Or.inr added

theorem waiting_of_grown {new : List (Note Id Fd Account Sn)} {links : Fd → Option (List Account)}
    {place : Nat} {fd : Fd} {account : Account}
    (waits : Waiting entry (grown s new links) place fd account) :
    Waiting entry s place fd account ∨
      (s.log.length ≤ place ∧ new[place - s.log.length]? = some (.login fd account)) := by
  obtain ⟨there, ahead⟩ := waits
  rcases entry_cases there with old | added
  · exact Or.inl ⟨old, ahead⟩
  · exact Or.inr added

/-- What was said of a link is either still true of it or followed by its closing. -/
theorem closing_grown {new : List (Note Id Fd Account Sn)} {links : Fd → Option (List Account)}
    (alive : ∀ fd account, Alive s fd account →
      Alive (grown s new links) fd account ∨ .closed fd true ∈ new)
    {place : Nat} {note : Note Id Fd Account Sn} {fd : Fd} {account : Account}
    (there : s.log[place]? = some note)
    (anchored : Alive s fd account ∨ Closing s fd (place + 1)) :
    Alive (grown s new links) fd account ∨ Closing (grown s new links) fd (place + 1) := by
  rcases anchored with now | ⟨later, after, closed⟩
  · rcases alive fd account now with still | ended
    · exact Or.inl still
    · obtain ⟨later, beyond, closed⟩ := new_entry s.log ended
      have inside := (List.getElem?_eq_some_iff.mp there).1
      exact Or.inr ⟨later, Nat.le_trans inside beyond, closed⟩
  · exact Or.inr ⟨later, after, old_entry closed⟩

/-- Messages put on the log. A link that ends has its closing among them. -/
theorem sound_grown (sound : Sound unset owns entry s) (new : List (Note Id Fd Account Sn))
    (links : Fd → Option (List Account)) (safe : Safe entry s new)
    (alive : ∀ fd account, Alive s fd account →
      Alive (grown s new links) fd account ∨ .closed fd true ∈ new)
    (begun : ∀ fd account, .login fd account ∈ new →
      Alive (grown s new links) fd account ∧ new = [.login fd account])
    (hopping : ∀ hop, .hop hop ∈ new → owns hop.sn hop.account ∧
      Alive (grown s new links) hop.fd hop.account ∧
      Present s hop.source hop.fd ⟨hop.account, hop.sn⟩)
    (leftOwned : ∀ id sn, .left id sn ∈ new → ∃ account, owns sn account) :
    Sound unset owns entry (grown s new links) := by
  refine ⟨?_, ?_, ?_, ?_, ?_, ?_, ?_, ?_, ?_, ?_, ?_⟩
  · intro id holder held
    dsimp only [grown]
    rw [List.length_append]
    exact Nat.le_add_right_of_le (sound.bounded id holder held)
  · intro id fd slot present
    rcases sound.anchored id fd slot present with now | ⟨place, ahead, closed⟩
    · rcases alive fd slot.account now with still | ended
      · exact Or.inl still
      · obtain ⟨place, beyond, closed⟩ := new_entry s.log ended
        exact Or.inr ⟨place, ahead_new sound present place beyond, closed⟩
    · exact Or.inr ⟨place, ahead, old_entry closed⟩
  · intro place fd account there
    rcases entry_cases there with old | ⟨-, added⟩
    · exact closing_grown alive old (sound.loginAnchored place fd account old)
    · exact Or.inl (begun fd account (entry_mem added)).1
  · intro place hop there
    rcases entry_cases there with old | ⟨-, added⟩
    · exact closing_grown alive old (sound.hopAnchored place hop old)
    · exact Or.inl (hopping hop (entry_mem added)).2.1
  · exact sound.slotOwned
  · intro place hop there
    rcases entry_cases there with old | ⟨-, added⟩
    · exact sound.hopOwned place hop old
    · exact (hopping hop (entry_mem added)).1
  · intro place id sn there
    rcases entry_cases there with old | ⟨-, added⟩
    · exact sound.leftOwned place id sn old
    · exact leftOwned id sn (entry_mem added)
  · intro id other fd another slot twin first second same
    obtain ⟨sameFd, rest⟩ := sound.oneSlot id other fd another slot twin first second same
    exact ⟨sameFd, rest.imp (fun here => here)
      (Or.imp (leaving_grown new links) (leaving_grown new links))⟩
  · intro place other hop twin first second same
    rcases flying_of_grown first with old | ⟨beyond, added⟩ <;>
      rcases flying_of_grown second with oldToo | ⟨beyondToo, addedToo⟩
    · exact sound.oneHop place other hop twin old oldToo same
    · exact absurd same ((safe.hops twin (entry_mem addedToo)).2.2 place hop old)
    · exact absurd same.symm ((safe.hops hop (entry_mem added)).2.2 other twin oldToo)
    · have here := safe.single _ _ hop twin added addedToo same
      omega
  · intro place hop id fd slot there present same
    rcases flying_of_grown there with old | ⟨-, added⟩
    · obtain ⟨sameFd, rest⟩ := sound.hopSlot place hop id fd slot old present same
      exact ⟨sameFd, rest.imp (fun here => here) (leaving_grown new links)⟩
    · -- The sender's own session is the only one of the account that is to stay.
      have member := entry_mem added
      obtain ⟨-, -, sender⟩ := hopping hop member
      obtain ⟨sameFd, rest⟩ := sound.oneSlot id hop.source fd hop.fd slot _ present sender same
      refine ⟨sameFd, ?_⟩
      rcases rest with here | leaving | leaving
      · subst here
        subst sameFd
        obtain ⟨holder, held, stored⟩ := present
        obtain ⟨holderToo, heldToo, storedToo⟩ := sender
        have alike : holder = holderToo := Option.some.inj (held.symm.trans heldToo)
        rw [alike, storedToo] at stored
        cases stored
        exact Or.inl ⟨rfl, rfl⟩
      · exact Or.inr (leaving_grown new links leaving)
      · exact absurd leaving (safe.hops hop member).2.1
  · intro place fd account there
    rcases waiting_of_grown there with old | ⟨beyond, added⟩
    · obtain ⟨present, hops, alone⟩ := sound.waits place fd account old
      refine ⟨present, ?_, ?_⟩
      · intro other hop flies
        rcases flying_of_grown flies with before | ⟨-, now⟩
        · exact hops other hop before
        · exact present _ _ _ (hopping hop (entry_mem now)).2.2
      · intro other another waits
        rcases waiting_of_grown waits with before | ⟨-, now⟩
        · exact alone other another before
        · exact absurd old ((safe.logins another account (entry_mem now)).2.2 place fd)
    · have member := entry_mem added
      obtain ⟨present, hops, nobody⟩ := safe.logins fd account member
      have only := (begun fd account member).2
      refine ⟨present, ?_, ?_⟩
      · intro other hop flies
        rcases flying_of_grown flies with before | ⟨-, now⟩
        · exact hops other hop before
        · rw [only] at now
          cases List.mem_singleton.mp (entry_mem now)
      · intro other another waits
        rcases waiting_of_grown waits with before | ⟨beyondToo, now⟩
        · exact absurd before (nobody other another)
        · rw [only] at added now
          have first := (List.getElem?_eq_some_iff.mp added).1
          have second := (List.getElem?_eq_some_iff.mp now).1
          simp only [List.length_singleton] at first second
          omega

/-- The log and the links stay, and no holder gains a session or the right to a
message: what is left of the sessions still waits for the same notices. -/
theorem sound_shrunk (unowned : ∀ account, ¬ owns unset account) (sound : Sound unset owns entry s)
    (holders : Id → Option (Holder Fd Account Sn))
    (bounded : ∀ id holder, holders id = some holder → holder.cursor ≤ s.log.length)
    (present : ∀ id fd slot, Present { s with holders := holders } id fd slot →
      ∃ old, Present s id fd old ∧ old.account = slot.account ∧
        (old.sn = slot.sn ∨ (old.sn = unset ∧ owns slot.sn slot.account)))
    (flying : ∀ place hop, Flying { s with holders := holders } place hop → Flying s place hop)
    (waiting : ∀ place fd account, Waiting entry { s with holders := holders } place fd account →
      Waiting entry s place fd account)
    (closing : ∀ id fd slot place, Present { s with holders := holders } id fd slot →
      Ahead s id place → s.log[place]? = some (.closed fd true) →
      Ahead { s with holders := holders } id place)
    (leaving : ∀ id fd slot, Present { s with holders := holders } id fd slot →
      Leaving s id slot.sn → Leaving { s with holders := holders } id slot.sn) :
    Sound unset owns entry { s with holders := holders } := by
  -- A number that an account owns is not one a session was given just now.
  have kept : ∀ id fd slot (old : Slot Account Sn), Present { s with holders := holders } id fd slot →
      (old.sn = slot.sn ∨ (old.sn = unset ∧ owns slot.sn slot.account)) →
      Leaving s id old.sn → Leaving { s with holders := holders } id slot.sn := by
    rintro id fd slot old now (same | ⟨bare, -⟩) left
    · rw [same] at left
      exact leaving id fd slot now left
    · obtain ⟨place, -, noted⟩ := left
      rw [bare] at noted
      obtain ⟨account, owned⟩ := sound.leftOwned place id unset noted
      exact absurd owned (unowned account)
  refine ⟨bounded, ?_, sound.loginAnchored, sound.hopAnchored, ?_, sound.hopOwned, sound.leftOwned,
    ?_, ?_, ?_, ?_⟩
  · intro id fd slot now
    obtain ⟨old, before, account, -⟩ := present id fd slot now
    rcases sound.anchored id fd old before with alive | ⟨place, ahead, closed⟩
    · rw [account] at alive
      exact Or.inl alive
    · exact Or.inr ⟨place, closing id fd slot place now ahead closed, closed⟩
  · intro id fd slot now
    obtain ⟨old, before, account, same | ⟨-, owned⟩⟩ := present id fd slot now
    · rw [← account, ← same]
      exact sound.slotOwned id fd old before
    · exact Or.inr owned
  · intro id other fd another slot twin first second alike
    obtain ⟨old, before, account, number⟩ := present id fd slot first
    obtain ⟨oldTwin, beforeTwin, accountTwin, numberTwin⟩ := present other another twin second
    obtain ⟨sameFd, rest⟩ := sound.oneSlot id other fd another old oldTwin before beforeTwin
      (by rw [account, accountTwin, alike])
    exact ⟨sameFd, rest.imp (fun here => here) (Or.imp (kept id fd slot old first number)
      (kept other another twin oldTwin second numberTwin))⟩
  · intro place other hop twin first second alike
    exact sound.oneHop place other hop twin (flying place hop first) (flying other twin second) alike
  · intro place hop id fd slot flies now alike
    obtain ⟨old, before, account, number⟩ := present id fd slot now
    obtain ⟨sameFd, rest⟩ := sound.hopSlot place hop id fd old (flying place hop flies) before
      (by rw [account, alike])
    refine ⟨sameFd, ?_⟩
    rcases rest with ⟨source, same⟩ | left
    · rcases number with unchanged | ⟨bare, -⟩
      · exact Or.inl ⟨source, by rw [← unchanged, same]⟩
      · have owned := sound.hopOwned place hop (flying place hop flies).1
        rw [← same, bare] at owned
        exact absurd owned (unowned _)
    · exact Or.inr (kept id fd slot old now number left)
  · intro place fd account waits
    obtain ⟨nobody, hops, alone⟩ := sound.waits place fd account (waiting place fd account waits)
    refine ⟨?_, ?_, ?_⟩
    · intro id other slot now
      obtain ⟨old, before, same, -⟩ := present id other slot now
      rw [← same]
      exact nobody id other old before
    · intro other hop flies
      exact hops other hop (flying other hop flies)
    · intro other another waitsToo
      exact alone other another (waiting other another account waitsToo)

end Growth

/-! A session to be stored. -/

section Arrivals

variable {unset : Sn} {owns : Sn → Account → Prop} {entry : Id} {s : Hub Id Fd Account Sn}
  {holder : Holder Fd Account Sn}

structure Fits (unset : Sn) (owns : Sn → Account → Prop) (entry id : Id) (s : Hub Id Fd Account Sn)
    (cursor : Nat) (fd : Fd) (slot : Slot Account Sn) : Prop where
  anchored : Alive s fd slot.account ∨ Closing s fd (cursor + 1)
  owned : (id = entry ∧ slot.sn = unset) ∨ owns slot.sn slot.account
  alone : ∀ other another twin, Present s other another twin → twin.account = slot.account →
    another = fd ∧ Leaving s other twin.sn
  hops : ∀ place hop, Flying s place hop → hop.account = slot.account →
    place = cursor ∧ hop.target = id
  waits : ∀ place another, Waiting entry s place another slot.account → place = cursor ∧ id = entry

theorem login_fits (sound : Sound unset owns entry s) (held : s.holders entry = some holder)
    {fd : Fd} {account : Account} (read : s.log[holder.cursor]? = some (.login fd account)) :
    Fits unset owns entry entry s holder.cursor fd ⟨account, unset⟩ := by
  have waits : Waiting entry s holder.cursor fd account := ⟨read, holder, held, Nat.le_refl _⟩
  obtain ⟨nobody, hops, alone⟩ := sound.waits holder.cursor fd account waits
  refine ⟨sound.loginAnchored holder.cursor fd account read, Or.inl ⟨rfl, rfl⟩, ?_, ?_, ?_⟩
  · intro other another twin present same
    exact absurd same (nobody other another twin present)
  · intro place hop flies same
    exact absurd same (hops place hop flies)
  · intro place another waitsToo
    exact ⟨(alone place another waitsToo).symm, rfl⟩

theorem hop_fits (sound : Sound unset owns entry s) {hop : Hop Id Fd Account Sn}
    (held : s.holders hop.target = some holder)
    (read : s.log[holder.cursor]? = some (.hop hop))
    (told : ∃ place, s.log[place]? = some (.left hop.source hop.sn) ∧
      ∀ id reader, s.holders id = some reader → reader.cursor ≤ place) :
    Fits unset owns entry hop.target s holder.cursor hop.fd ⟨hop.account, hop.sn⟩ := by
  have flies : Flying s holder.cursor hop := ⟨read, holder, held, Nat.le_refl _⟩
  refine ⟨sound.hopAnchored holder.cursor hop read, Or.inr (sound.hopOwned holder.cursor hop read),
    ?_, ?_, ?_⟩
  · intro other another twin present same
    obtain ⟨sameFd, ⟨source, number⟩ | leaves⟩ :=
      sound.hopSlot holder.cursor hop other another twin flies present same
    · obtain ⟨place, noted, beyond⟩ := told
      obtain ⟨reader, stands, -⟩ := present
      rw [← source, ← number] at noted
      exact ⟨sameFd, place, ⟨reader, stands, beyond other reader stands⟩, noted⟩
    · exact ⟨sameFd, leaves⟩
  · intro place twin fliesToo same
    have here := sound.oneHop place holder.cursor twin hop fliesToo flies same
    refine ⟨here, ?_⟩
    have noted := fliesToo.1
    rw [here, read] at noted
    cases noted
    rfl
  · intro place another waits
    exact absurd rfl ((sound.waits place another hop.account waits).2.1 holder.cursor hop flies)

end Arrivals

/-! One holder reads one message. -/

section Reading

variable [DecidableEq Id] {unset : Sn} {owns : Sn → Account → Prop} {entry id : Id}
  {s : Hub Id Fd Account Sn} {holder : Holder Fd Account Sn} {note : Note Id Fd Account Sn}

def advanced (s : Hub Id Fd Account Sn) (id : Id) (cursor : Nat)
    (after : Fd → Option (Slot Account Sn)) : Hub Id Fd Account Sn :=
  { s with holders := Function.update s.holders id (some ⟨cursor + 1, after⟩) }

theorem advanced_self (s : Hub Id Fd Account Sn) (id : Id) (cursor : Nat)
    (after : Fd → Option (Slot Account Sn)) :
    (advanced s id cursor after).holders id = some ⟨cursor + 1, after⟩ :=
  Function.update_self _ _ _

theorem advanced_other (s : Hub Id Fd Account Sn) {id other : Id} (cursor : Nat)
    (after : Fd → Option (Slot Account Sn)) (apart : other ≠ id) :
    (advanced s id cursor after).holders other = s.holders other :=
  Function.update_of_ne apart _ _

theorem present_advanced {cursor : Nat} {after : Fd → Option (Slot Account Sn)} {other : Id} {fd : Fd}
    {slot : Slot Account Sn} (present : Present (advanced s id cursor after) other fd slot) :
    (other = id ∧ after fd = some slot) ∨ (other ≠ id ∧ Present s other fd slot) := by
  obtain ⟨reader, held, stored⟩ := present
  by_cases same : other = id
  · rw [same, advanced_self] at held
    cases held
    exact Or.inl ⟨same, stored⟩
  · rw [advanced_other s cursor after same] at held
    exact Or.inr ⟨same, reader, held, stored⟩

theorem ahead_of_advanced (held : s.holders id = some holder) {after : Fd → Option (Slot Account Sn)}
    {other : Id} {place : Nat} (ahead : Ahead (advanced s id holder.cursor after) other place) :
    Ahead s other place ∧ (other = id → holder.cursor < place) := by
  obtain ⟨reader, stands, before⟩ := ahead
  by_cases same : other = id
  · rw [same, advanced_self] at stands
    cases stands
    rw [same]
    exact ⟨⟨holder, held, Nat.le_of_succ_le before⟩, fun _ => before⟩
  · rw [advanced_other s _ after same] at stands
    exact ⟨⟨reader, stands, before⟩, fun equal => absurd equal same⟩

theorem ahead_advanced (held : s.holders id = some holder) (after : Fd → Option (Slot Account Sn))
    {other : Id} {place : Nat} (ahead : Ahead s other place)
    (unread : other = id → place ≠ holder.cursor) :
    Ahead (advanced s id holder.cursor after) other place := by
  obtain ⟨reader, stands, before⟩ := ahead
  by_cases same : other = id
  · refine ⟨⟨holder.cursor + 1, after⟩, ?_, ?_⟩
    · rw [same, advanced_self]
    · rw [same, held] at stands
      cases stands
      have apart := unread same
      dsimp only
      omega
  · refine ⟨reader, ?_, before⟩
    rw [advanced_other s _ after same]
    exact stands

theorem flying_of_advanced (held : s.holders id = some holder)
    {after : Fd → Option (Slot Account Sn)} {place : Nat} {hop : Hop Id Fd Account Sn}
    (flies : Flying (advanced s id holder.cursor after) place hop) : Flying s place hop :=
  ⟨flies.1, (ahead_of_advanced held flies.2).1⟩

theorem waiting_of_advanced (held : s.holders id = some holder)
    {after : Fd → Option (Slot Account Sn)} {place : Nat} {fd : Fd} {account : Account}
    (waits : Waiting entry (advanced s id holder.cursor after) place fd account) :
    Waiting entry s place fd account :=
  ⟨waits.1, (ahead_of_advanced held waits.2).1⟩

theorem leaving_of_advanced (held : s.holders id = some holder)
    {after : Fd → Option (Slot Account Sn)} {other : Id} {sn : Sn}
    (leaves : Leaving (advanced s id holder.cursor after) other sn) : Leaving s other sn := by
  obtain ⟨place, ahead, noted⟩ := leaves
  exact ⟨place, (ahead_of_advanced held ahead).1, noted⟩

/-- A notice read by another holder, or another notice read, still has its effect to come. -/
theorem leaving_advanced (held : s.holders id = some holder) (read : s.log[holder.cursor]? = some note)
    (after : Fd → Option (Slot Account Sn)) {other : Id} {sn : Sn} (leaves : Leaving s other sn)
    (unread : other = id → note ≠ .left id sn) :
    Leaving (advanced s id holder.cursor after) other sn := by
  obtain ⟨place, ahead, noted⟩ := leaves
  refine ⟨place, ahead_advanced held after ahead ?_, noted⟩
  rintro same rfl
  rw [read, same] at noted
  exact unread same (Option.some.inj noted)

theorem cursor_advances (sound : Sound unset owns entry s)
    (read : s.log[holder.cursor]? = some note) (after : Fd → Option (Slot Account Sn)) :
    ∀ other reader, (advanced s id holder.cursor after).holders other = some reader →
      reader.cursor ≤ s.log.length := by
  intro other reader stands
  by_cases same : other = id
  · rw [same, advanced_self] at stands
    cases stands
    exact (List.getElem?_eq_some_iff.mp read).1
  · rw [advanced_other s _ after same] at stands
    exact sound.bounded other reader stands

/-- A message that adds no session: it refuses a login or a hop, closes a link,
lets a session go or concerns none. -/
theorem sound_read (unowned : ∀ account, ¬ owns unset account) (sound : Sound unset owns entry s)
    (held : s.holders id = some holder) (read : s.log[holder.cursor]? = some note)
    (after : Fd → Option (Slot Account Sn)) (evolves : Evolves unset owns holder.slots after)
    (closed : ∀ fd, note = .closed fd true → after fd = none)
    (left : ∀ sn, note = .left id sn → ∀ fd slot, after fd = some slot → slot.sn ≠ sn) :
    Sound unset owns entry (advanced s id holder.cursor after) := by
  refine sound_shrunk unowned sound _ (cursor_advances sound read after) ?_ ?_ ?_ ?_ ?_
  · intro other fd slot present
    rcases present_advanced present with ⟨rfl, stored⟩ | ⟨-, before⟩
    · obtain ⟨old, stored, rest⟩ := evolves fd slot stored
      exact ⟨old, ⟨holder, held, stored⟩, rest⟩
    · exact ⟨slot, before, rfl, Or.inl rfl⟩
  · intro place hop
    exact flying_of_advanced held
  · intro place fd account
    exact waiting_of_advanced held
  · intro other fd slot place present ahead there
    refine ahead_advanced held after ahead ?_
    rintro rfl rfl
    rw [read] at there
    rcases present_advanced present with ⟨-, stored⟩ | ⟨apart, -⟩
    · rw [closed fd (Option.some.inj there)] at stored
      cases stored
    · exact apart rfl
  · intro other fd slot present leaves
    refine leaving_advanced held read after leaves ?_
    rintro rfl same
    rcases present_advanced present with ⟨-, stored⟩ | ⟨apart, -⟩
    · exact left slot.sn same fd slot stored rfl
    · exact apart rfl

theorem sound_stored [DecidableEq Fd] (sound : Sound unset owns entry s) (held : s.holders id = some holder)
    (read : s.log[holder.cursor]? = some note) (open_ : ∀ fd, note ≠ .closed fd true)
    (stays : ∀ sn, note ≠ .left id sn) (fd : Fd) (slot : Slot Account Sn)
    (fits : Fits unset owns entry id s holder.cursor fd slot) :
    Sound unset owns entry
      (advanced s id holder.cursor (Function.update holder.slots fd (some slot))) := by
  let after := Function.update holder.slots fd (some slot)
  have present : ∀ other another twin, Present (advanced s id holder.cursor after) other another twin →
      Present s other another twin ∨ (other = id ∧ another = fd ∧ twin = slot) := by
    intro other another twin now
    rcases present_advanced now with ⟨rfl, stored⟩ | ⟨-, before⟩
    · change Function.update holder.slots fd (some slot) another = some twin at stored
      by_cases same : another = fd
      · rw [same, Function.update_self] at stored
        cases stored
        exact Or.inr ⟨rfl, same, rfl⟩
      · rw [Function.update_of_ne same] at stored
        exact Or.inl ⟨holder, held, stored⟩
    · exact Or.inl before
  have leaving : ∀ other sn, Leaving s other sn → Leaving (advanced s id holder.cursor after) other sn :=
    fun other sn leaves => leaving_advanced held read after leaves fun _ => stays sn
  have flying : ∀ place hop, Flying (advanced s id holder.cursor after) place hop →
      Flying s place hop := fun place hop => flying_of_advanced held
  have waiting : ∀ place another account,
      Waiting entry (advanced s id holder.cursor after) place another account →
      Waiting entry s place another account := fun place another account => waiting_of_advanced held
  have settled : ∀ place hop, Flying (advanced s id holder.cursor after) place hop →
      hop.account ≠ slot.account := by
    intro place hop flies same
    obtain ⟨here, target⟩ := fits.hops place hop (flying place hop flies) same
    have beyond := (ahead_of_advanced held flies.2).2 target
    omega
  refine ⟨cursor_advances sound read after, ?_, sound.loginAnchored, sound.hopAnchored, ?_,
    sound.hopOwned, sound.leftOwned, ?_, ?_, ?_, ?_⟩
  · intro other another twin now
    rcases present other another twin now with before | ⟨rfl, rfl, rfl⟩
    · rcases sound.anchored other another twin before with alive | ⟨place, ahead, closed⟩
      · exact Or.inl alive
      · refine Or.inr ⟨place, ahead_advanced held after ahead ?_, closed⟩
        rintro - rfl
        rw [read] at closed
        exact open_ another (Option.some.inj closed)
    · rcases fits.anchored with alive | ⟨place, beyond, closed⟩
      · exact Or.inl alive
      · refine Or.inr ⟨place, ?_, closed⟩
        exact ahead_advanced held after ⟨holder, held, Nat.le_of_succ_le beyond⟩ fun _ => by omega
  · intro other another twin now
    rcases present other another twin now with before | ⟨rfl, rfl, rfl⟩
    · exact sound.slotOwned other another twin before
    · exact fits.owned
  · intro one other another third twin triplet first second same
    rcases present one another twin first with before | ⟨rfl, rfl, rfl⟩ <;>
      rcases present other third triplet second with beforeToo | ⟨rfl, rfl, rfl⟩
    · obtain ⟨sameFd, rest⟩ := sound.oneSlot one other another third twin triplet before beforeToo same
      exact ⟨sameFd, rest.imp (fun here => here) (Or.imp (leaving _ _) (leaving _ _))⟩
    · obtain ⟨sameFd, leaves⟩ := fits.alone one another twin before same
      exact ⟨sameFd, Or.inr (Or.inl (leaving _ _ leaves))⟩
    · obtain ⟨sameFd, leaves⟩ := fits.alone other third triplet beforeToo same.symm
      exact ⟨sameFd.symm, Or.inr (Or.inr (leaving _ _ leaves))⟩
    · exact ⟨rfl, Or.inl rfl⟩
  · intro place other hop twin first second same
    exact sound.oneHop place other hop twin (flying place hop first) (flying other twin second) same
  · intro place hop other another twin flies now same
    rcases present other another twin now with before | ⟨rfl, rfl, rfl⟩
    · obtain ⟨sameFd, rest⟩ := sound.hopSlot place hop other another twin (flying place hop flies) before same
      exact ⟨sameFd, rest.imp (fun here => here) (leaving _ _)⟩
    · exact absurd same.symm (settled place hop flies)
  · intro place another account waits
    obtain ⟨nobody, hops, alone⟩ := sound.waits place another account (waiting place another account waits)
    refine ⟨?_, ?_, ?_⟩
    · intro other third twin now
      rcases present other third twin now with before | ⟨rfl, rfl, rfl⟩
      · exact nobody other third twin before
      · rintro rfl
        obtain ⟨here, reader⟩ := fits.waits place another (waiting place another _ waits)
        have beyond := (ahead_of_advanced held waits.2).2 reader.symm
        omega
    · intro other hop flies
      exact hops other hop (flying other hop flies)
    · intro other third waitsToo
      exact alone other third (waiting other third account waitsToo)

end Reading

/-! Every step. -/

section Steps

variable {unset : Sn} {owns : Sn → Account → Prop} {entry : Id} {s s' : Hub Id Fd Account Sn}
  {new : List (Note Id Fd Account Sn)}

theorem evolves_refl (slots : Fd → Option (Slot Account Sn)) : Evolves unset owns slots slots :=
  fun _ slot stored => ⟨slot, stored, rfl, Or.inl rfl⟩

theorem sound_noticed (sound : Sound unset owns entry s)
    (notices : ∀ note ∈ new, note = .other ∨ ∃ id sn account, note = .left id sn ∧ owns sn account) :
    Sound unset owns entry (grown s new s.links) := by
  have noLogin : ∀ fd account, .login fd account ∉ new := by
    intro fd account member
    rcases notices _ member with impossible | ⟨_, _, _, impossible, _⟩ <;> cases impossible
  have noHop : ∀ hop, .hop hop ∉ new := by
    intro hop member
    rcases notices _ member with impossible | ⟨_, _, _, impossible, _⟩ <;> cases impossible
  have safe : Safe entry s new := by
    refine ⟨fun fd account member => absurd member (noLogin fd account), ?_,
      fun hop member => absurd member (noHop hop),
      fun _ _ first _ there => absurd (entry_mem there) (noHop first)⟩
    intro fd tagged accounts member
    rcases notices _ member with impossible | ⟨_, _, _, impossible, _⟩ <;> cases impossible
  refine sound_grown sound new s.links safe (fun fd account alive => Or.inl alive)
    (fun fd account member => absurd member (noLogin fd account))
    (fun hop member => absurd member (noHop hop)) ?_
  intro id sn member
  rcases notices _ member with impossible | ⟨_, _, account, same, owned⟩
  · cases impossible
  · cases same
    exact ⟨account, owned⟩

theorem sound_quiet (sound : Sound unset owns entry s) (quiet : Quiet new) :
    Sound unset owns entry (grown s new s.links) :=
  sound_noticed sound fun note member => Or.inl (quiet note member)

theorem number_unique (unowned : ∀ account, ¬ owns unset account)
    (single : ∀ sn account other, owns sn account → owns sn other → account = other)
    (sound : Sound unset owns entry s) {id : Id} {fd another : Fd} {slot twin : Slot Account Sn}
    (first : Present s id fd slot) (second : Present s id another twin) (same : slot.sn = twin.sn)
    (owned : ∃ account, owns slot.sn account) : fd = another := by
  obtain ⟨account, owner⟩ := owned
  have known : ∀ fd (slot : Slot Account Sn), Present s id fd slot → owns slot.sn account →
      slot.account = account := by
    intro fd slot present owner
    rcases sound.slotOwned id fd slot present with ⟨-, bare⟩ | owned
    · rw [bare] at owner
      exact absurd owner (unowned account)
    · exact single slot.sn slot.account account owned owner
  have accounts : slot.account = twin.account := by
    rw [known fd slot first owner, known another twin second (same ▸ owner)]
  exact (sound.oneSlot id id fd another slot twin first second accounts).1

theorem sound_joined [DecidableEq Id] (unowned : ∀ account, ¬ owns unset account)
    (sound : Sound unset owns entry s) (id : Id) (cursor : Nat) (apart : id ≠ entry)
    (free : s.holders id = none) (inside : cursor ≤ s.log.length)
    (fresh : ∀ (place : Nat) (hop : Hop Id Fd Account Sn), s.log[place]? = some (.hop hop) →
      hop.target ≠ id) :
    Sound unset owns entry { s with
      holders := Function.update s.holders id (some ⟨cursor, fun _ => none⟩) } := by
  have older : ∀ other (reader : Holder Fd Account Sn), other ≠ id →
      Function.update s.holders id (some ⟨cursor, fun _ => none⟩) other = some reader →
      s.holders other = some reader := by
    intro other reader differs stands
    rw [Function.update_of_ne differs] at stands
    exact stands
  have present : ∀ other fd slot, Present { s with
      holders := Function.update s.holders id (some ⟨cursor, fun _ => none⟩) } other fd slot →
      other ≠ id ∧ Present s other fd slot := by
    rintro other fd slot ⟨reader, stands, stored⟩
    by_cases same : other = id
    · dsimp only at stands
      rw [same, Function.update_self] at stands
      cases stands
      cases stored
    · exact ⟨same, reader, older other reader same stands, stored⟩
  have ahead : ∀ other place, Ahead s other place → Ahead { s with
      holders := Function.update s.holders id (some ⟨cursor, fun _ => none⟩) } other place := by
    rintro other place ⟨reader, stands, before⟩
    have differs : other ≠ id := by
      rintro rfl
      rw [free] at stands
      cases stands
    exact ⟨reader, (Function.update_of_ne differs _ _).trans stands, before⟩
  refine sound_shrunk unowned sound _ ?_ ?_ ?_ ?_ ?_ ?_
  · intro other reader stands
    by_cases same : other = id
    · rw [same, Function.update_self] at stands
      cases stands
      exact inside
    · exact sound.bounded other reader (older other reader same stands)
  · intro other fd slot now
    exact ⟨slot, (present other fd slot now).2, rfl, Or.inl rfl⟩
  · rintro place hop ⟨there, reader, stands, before⟩
    exact ⟨there, reader, older hop.target reader (fresh place hop there) stands, before⟩
  · rintro place fd account ⟨there, reader, stands, before⟩
    exact ⟨there, reader, older entry reader apart.symm stands, before⟩
  · intro other fd slot place _ before _
    exact ahead other place before
  · rintro other fd slot - ⟨place, before, left⟩
    exact ⟨place, ahead other place before, left⟩

theorem sound_parted [DecidableEq Id] (unowned : ∀ account, ¬ owns unset account)
    (sound : Sound unset owns entry s) (id : Id) :
    Sound unset owns entry { s with holders := Function.update s.holders id none } := by
  have older : ∀ other (reader : Holder Fd Account Sn),
      Function.update s.holders id none other = some reader →
      other ≠ id ∧ s.holders other = some reader := by
    intro other reader stands
    by_cases same : other = id
    · rw [same, Function.update_self] at stands
      cases stands
    · rw [Function.update_of_ne same] at stands
      exact ⟨same, stands⟩
  have ahead : ∀ other place, other ≠ id → Ahead s other place →
      Ahead { s with holders := Function.update s.holders id none } other place := by
    rintro other place differs ⟨reader, stands, before⟩
    exact ⟨reader, (Function.update_of_ne differs _ _).trans stands, before⟩
  have stays : ∀ other fd slot, Present { s with holders := Function.update s.holders id none } other fd slot →
      other ≠ id := by
    rintro other fd slot ⟨reader, stands, -⟩
    exact (older other reader stands).1
  refine sound_shrunk unowned sound _ ?_ ?_ ?_ ?_ ?_ ?_
  · intro other reader stands
    exact sound.bounded other reader (older other reader stands).2
  · rintro other fd slot ⟨reader, stands, stored⟩
    exact ⟨slot, ⟨reader, (older other reader stands).2, stored⟩, rfl, Or.inl rfl⟩
  · rintro place hop ⟨there, reader, stands, before⟩
    exact ⟨there, reader, (older hop.target reader stands).2, before⟩
  · rintro place fd account ⟨there, reader, stands, before⟩
    exact ⟨there, reader, (older entry reader stands).2, before⟩
  · intro other fd slot place now before _
    exact ahead other place (stays other fd slot now) before
  · rintro other fd slot now ⟨place, before, left⟩
    exact ⟨place, ahead other place (stays other fd slot now) before, left⟩

theorem alive_relinked [DecidableEq Fd] (fd : Fd) (accounts : Option (List Account))
    (new : List (Note Id Fd Account Sn)) {other : Fd} {account : Account} (alive : Alive s other account)
    (here : other = fd → Alive (grown s new (Function.update s.links fd accounts)) other account ∨
      .closed other true ∈ new) :
    Alive (grown s new (Function.update s.links fd accounts)) other account ∨
      .closed other true ∈ new := by
  by_cases same : other = fd
  · exact here same
  · obtain ⟨known, linked, member⟩ := alive
    exact Or.inl ⟨known, (Function.update_of_ne same _ _).trans linked, member⟩

variable [DecidableEq Id] [DecidableEq Fd]

theorem sound_handled (unowned : ∀ account, ¬ owns unset account)
    (single : ∀ sn account other, owns sn account → owns sn other → account = other)
    (sound : Sound unset owns entry s) (safe : Safe entry s new) (id : Id)
    (holder : Holder Fd Account Sn) (note : Note Id Fd Account Sn)
    (after : Fd → Option (Slot Account Sn)) (held : s.holders id = some holder)
    (read : s.log[holder.cursor]? = some note)
    (handled : Handled unset owns entry id note holder.slots after new) :
    Sound unset owns entry (advanced (grown s new s.links) id holder.cursor after) := by
  have readLater : (grown s new s.links).log[holder.cursor]? = some note := old_entry read
  cases note with
  | login fd account =>
      obtain ⟨quiet, rfl | ⟨rfl, -, rfl⟩⟩ := handled
      · exact sound_read unowned (sound_quiet sound quiet) held readLater holder.slots
          (evolves_refl _) (by simp) (by simp)
      · have later := sound_quiet sound quiet
        exact sound_stored later held readLater (by simp) (by simp) fd _
          (login_fits later held readLater)
  | hop hop =>
      rcases handled with ⟨rfl, quiet⟩ | ⟨rfl, -, rfl, told, only⟩
      · exact sound_read unowned (sound_quiet sound quiet) held readLater holder.slots
          (evolves_refl _) (by simp) (by simp)
      · -- The source is told first; the session arrives in a state where it is.
        have later : Sound unset owns entry (grown s new s.links) := by
          refine sound_noticed sound fun note member => (only note member).imp_right ?_
          rintro rfl
          exact ⟨hop.source, hop.sn, hop.account, rfl, sound.hopOwned holder.cursor hop read⟩
        obtain ⟨place, beyond, noted⟩ := new_entry s.log told
        refine sound_stored later held readLater (by simp) (by simp) hop.fd _
          (hop_fits later held readLater ⟨place, noted, ?_⟩)
        intro other reader stands
        exact Nat.le_trans (sound.bounded other reader stands) beyond
  | left source sn =>
      obtain ⟨quiet, handled⟩ := handled
      have later := sound_quiet sound quiet
      rcases handled with ⟨apart, rfl⟩ | ⟨absent, rfl⟩ | ⟨fd, slot, rfl, stored, rfl, rfl⟩
      · refine sound_read unowned later held readLater holder.slots (evolves_refl _) (by simp) ?_
        rintro sn ⟨⟩
        exact absurd rfl apart
      · refine sound_read unowned later held readLater holder.slots (evolves_refl _) (by simp) ?_
        rintro sn ⟨⟩ fd slot here
        exact absent fd slot here
      · have rest : ∀ another twin, Function.update holder.slots fd none another = some twin →
            another ≠ fd ∧ holder.slots another = some twin := by
          intro another twin here
          by_cases same : another = fd
          · rw [same, Function.update_self] at here
            cases here
          · rw [Function.update_of_ne same] at here
            exact ⟨same, here⟩
        refine sound_read unowned later held readLater _ ?_ (by simp) ?_
        · intro another twin here
          exact ⟨twin, (rest another twin here).2, rfl, Or.inl rfl⟩
        · rintro sn ⟨⟩ another twin here same
          obtain ⟨apart, storedToo⟩ := rest another twin here
          have owned := sound.leftOwned holder.cursor source slot.sn read
          exact apart (number_unique unowned single sound ⟨holder, held, stored⟩
            ⟨holder, held, storedToo⟩ same.symm owned).symm
  | closed fd tagged =>
      obtain ⟨quiet, kept, gone⟩ := handled
      refine sound_read unowned (sound_quiet sound quiet) held readLater after ?_ ?_ (by simp)
      · intro other slot here
        exact ⟨slot, kept other slot here, rfl, Or.inl rfl⟩
      · rintro fd ⟨⟩
        exact gone rfl
  | other =>
      obtain ⟨evolves, sent⟩ := handled
      have begun := sound_read unowned sound held read after evolves (by simp) (by simp)
      have hops : ∀ hop, .hop hop ∈ new →
          hop.source = id ∧ after hop.fd = some ⟨hop.account, hop.sn⟩ ∧ (id = entry → hop.sn ≠ unset) := by
        intro hop member
        rcases sent _ member with impossible | ⟨other, same, rest⟩
        · cases impossible
        · cases same
          exact rest
      have noLogin : ∀ fd account, .login fd account ∉ new := by
        intro fd account member
        rcases sent _ member with impossible | ⟨_, impossible, _⟩ <;> cases impossible
      have senders : ∀ hop, .hop hop ∈ new →
          Present (advanced s id holder.cursor after) hop.source hop.fd ⟨hop.account, hop.sn⟩ := by
        intro hop member
        obtain ⟨rfl, stored, -⟩ := hops hop member
        exact ⟨_, advanced_self s hop.source holder.cursor after, stored⟩
      refine sound_grown begun new s.links ?_ (fun fd account alive => Or.inl alive)
        (fun fd account member => absurd member (noLogin fd account)) ?_ ?_
      · refine ⟨fun fd account member => absurd member (noLogin fd account), safe.closes, ?_, safe.single⟩
        intro hop member
        obtain ⟨alive, stays, alone⟩ := safe.hops hop member
        refine ⟨alive, fun leaves => stays (leaving_of_advanced held leaves), ?_⟩
        intro place other flies
        exact alone place other (flying_of_advanced held flies)
      · intro hop member
        obtain ⟨source, stored, numbered⟩ := hops hop member
        refine ⟨?_, (safe.hops hop member).1, senders hop member⟩
        rcases begun.slotOwned hop.source hop.fd _ (senders hop member) with ⟨here, bare⟩ | owned
        · exact absurd bare (numbered (source.symm.trans here))
        · exact owned
      · intro other sn member
        rcases sent _ member with impossible | ⟨_, impossible, _⟩ <;> cases impossible

theorem sound_move (unowned : ∀ account, ¬ owns unset account)
    (single : ∀ sn account other, owns sn account → owns sn other → account = other)
    (sound : Sound unset owns entry s) (move : Move unset owns entry s new s')
    (safe : Safe entry s new) : Sound unset owns entry s' := by
  cases move with
  | opened fd shut =>
      have same : grown s [] (Function.update s.links fd (some [])) =
          { s with links := Function.update s.links fd (some []) } := by simp [grown]
      rw [← same]
      refine sound_grown sound [] _ safe ?_ (by simp) (by simp) (by simp)
      intro other account alive
      refine alive_relinked fd _ [] alive ?_
      rintro rfl
      obtain ⟨known, linked, -⟩ := alive
      rw [shut] at linked
      cases linked
  | login fd account accounts linked =>
      have begun : Alive (grown s [.login fd account]
          (Function.update s.links fd (some (account :: accounts)))) fd account :=
        ⟨_, Function.update_self _ _ _, List.mem_cons_self⟩
      refine sound_grown sound [.login fd account] _ safe ?_ ?_ (by simp) (by simp)
      · intro other named alive
        refine alive_relinked fd _ _ alive ?_
        rintro rfl
        obtain ⟨known, stood, member⟩ := alive
        rw [linked] at stood
        cases stood
        exact Or.inl ⟨_, Function.update_self _ _ _, List.mem_cons_of_mem _ member⟩
      · intro other named member
        cases List.mem_singleton.mp member
        exact ⟨begun, rfl⟩
  | closed fd tagged accounts linked =>
      refine sound_grown sound [.closed fd tagged] _ safe ?_ (by simp) (by simp) (by simp)
      intro other account alive
      refine alive_relinked fd _ _ alive ?_
      rintro rfl
      obtain ⟨known, stood, member⟩ := alive
      have tags := safe.closes other tagged known List.mem_cons_self stood (List.ne_nil_of_mem member)
      rw [tags]
      exact Or.inr List.mem_cons_self
  | joined id cursor apart free inside fresh =>
      exact sound_joined unowned sound id cursor apart free inside fresh
  | parted id apart => exact sound_parted unowned sound id
  | noted new notes =>
      have noLogin : ∀ fd account, .login fd account ∉ new := by
        intro fd account member
        rcases notes _ member with impossible | ⟨_, impossible, _⟩ <;> cases impossible
      have noHop : ∀ hop, .hop hop ∉ new := by
        intro hop member
        rcases notes _ member with impossible | ⟨_, impossible, _⟩ <;> cases impossible
      refine sound_grown sound new s.links safe (fun fd account alive => Or.inl alive)
        (fun fd account member => absurd member (noLogin fd account))
        (fun hop member => absurd member (noHop hop)) ?_
      intro id sn member
      rcases notes _ member with impossible | ⟨_, impossible, _⟩ <;> cases impossible
  | handled id holder note after new held read handled =>
      exact sound_handled unowned single sound safe id holder note after held read handled

end Steps

end GameBook.Handover
