import Handoff.Proofs.Shutdown.History

/-!
Channels apart from each other. What is held of a channel, and what the actions put to it are answered,
is the same when all else that is done in between is left out.
-/

namespace Handoff.Shutdown

/-- What is left of an action for the channel that loses an end because the action gives its name to
another. -/
def Action.surrender : Action → Action
  | .create sender => .dropSender sender
  | .clone sender _ => .dropSender sender
  | .subscribe receiver _ => .dropReceiver receiver
  | action => action

namespace History

/-- The channel that an action is put to. -/
def answering? (h : History) : Action → Option Nat
  | .create _ => none
  | .clone _ source => h.senderChannel? source
  | .subscribe _ source => h.senderChannel? source
  | .trigger sender => h.senderChannel? sender
  | .receive receiver => h.receiverChannel? receiver
  | .dropSender sender => h.senderChannel? sender
  | .dropReceiver receiver => h.receiverChannel? receiver

/-- The channel that loses an end because an action gives its name to another. -/
def displaced? (h : History) : Action → Option Nat
  | .create sender => h.senderChannel? sender
  | .clone sender source => (h.senderChannel? source).bind fun _ => h.senderChannel? sender
  | .subscribe receiver source => (h.senderChannel? source).bind fun _ => h.receiverChannel? receiver
  | _ => none

end History

/-- What a course of actions is to one channel: those that are put to it, and the ends that it loses to
others, each with the answer. -/
def Hub.portion (channel : Nat) : Hub → History → List Action → List (Action × Reply)
  | _, _, [] => []
  | hub, h, action :: rest =>
    let later := portion channel (hub.act action).1 ((action, (hub.act action).2) :: h) rest
    if h.answering? action = some channel then (action, (hub.act action).2) :: later
    else if h.displaced? action = some channel then (action.surrender, .dropped) :: later
    else later

/-- Whether a receiver is one of a channel. -/
def Receiver.isOn (channel : Nat) (r : Receiver) : Bool := r.channel == channel

theorem Receiver.isOn_of_eq {channel : Nat} {r : Receiver} (h : r.channel = channel) :
    r.isOn channel = true := beq_iff_eq.mpr h

theorem Receiver.isOn_of_ne {channel : Nat} {r : Receiver} (h : r.channel ≠ channel) :
    r.isOn channel = false := beq_eq_false_iff_ne.mpr h

namespace Hub

/-- Two hubs hold the same of a channel. -/
structure Agree (channel : Nat) (a b : Hub) : Prop where
  sent : a.sentOn channel = b.sentOn channel
  senders : a.senders.filter (·.2 == channel) = b.senders.filter (·.2 == channel)
  receivers : a.receivers.filter (·.2.isOn channel) = b.receivers.filter (·.2.isOn channel)

section
variable {α : Type} {p : α → Bool} {name : String} {x : α} {held : List (String × α)}

theorem filter_without :
    (without name held).filter (fun entry => p entry.2) =
      without name (held.filter (fun entry => p entry.2)) := by
  rw [without, without, List.filter_filter, List.filter_filter]
  exact List.filter_congr fun _ _ => Bool.and_comm _ _

/-- A name that stands for nothing of a kind can be given up without a change to that kind. -/
theorem filter_without_other (hnames : (held.map Prod.fst).Nodup)
    (hother : ∀ y, held.lookup name = some y → p y = false) :
    (without name held).filter (fun entry => p entry.2) = held.filter (fun entry => p entry.2) := by
  rw [filter_without, without, List.filter_eq_self]
  rintro ⟨key, y⟩ hmem
  obtain ⟨hheld, hy⟩ := List.mem_filter.mp hmem
  have hne : key ≠ name := by
    rintro rfl
    rw [hother y ((mem_iff_lookup hnames).mp hheld)] at hy
    cases hy
  simpa using hne

/-- What is held of a kind after something else was given a name. -/
theorem filter_hold_off (hx : p x = false) :
    (hold name x held).filter (fun entry => p entry.2) =
      (without name held).filter (fun entry => p entry.2) := by
  rw [hold, List.filter_cons_of_neg (by simp [hx])]

theorem filter_hold_other (hnames : (held.map Prod.fst).Nodup) (hx : p x = false)
    (hother : ∀ y, held.lookup name = some y → p y = false) :
    (hold name x held).filter (fun entry => p entry.2) = held.filter (fun entry => p entry.2) := by
  rw [filter_hold_off hx]
  exact filter_without_other hnames hother

theorem filter_hold (hx : p x = true) :
    (hold name x held).filter (fun entry => p entry.2) =
      hold name x (held.filter (fun entry => p entry.2)) := by
  have hkept : (fun entry : String × α => p entry.2) (name, x) = true := hx
  rw [hold, List.filter_cons, if_pos hkept, filter_without, hold]

theorem mem_filter_iff (hnames : (held.map Prod.fst).Nodup) :
    (name, x) ∈ held.filter (fun entry => p entry.2) ↔ held.lookup name = some x ∧ p x = true := by
  rw [List.mem_filter, mem_iff_lookup hnames]

end

namespace Agree

variable {channel : Nat} {a b c : Hub}

theorem trans (hab : Agree channel a b) (hbc : Agree channel b c) : Agree channel a c where
  sent := hab.sent.trans hbc.sent
  senders := hab.senders.trans hbc.senders
  receivers := hab.receivers.trans hbc.receivers

theorem isAlive (hab : Agree channel a b) : a.isAlive channel = b.isAlive channel := by
  have hsome (hub : Hub) :
      hub.isAlive channel = (hub.senders.filter (·.2 == channel)).any (·.2 == channel) := by
    rw [Hub.isAlive, List.any_filter]
    simp only [Bool.and_self]
  rw [hsome, hsome, hab.senders]

theorem audience (hab : Agree channel a b) : a.audience channel = b.audience channel := by
  have hcount (hub : Hub) :
      hub.audience channel = (hub.receivers.filter (·.2.isOn channel)).length :=
    List.countP_eq_length_filter ..
  rw [hcount, hcount, hab.receivers]

theorem sender (hab : Agree channel a b) (ha : (a.senders.map Prod.fst).Nodup)
    (hb : (b.senders.map Prod.fst).Nodup) {name : String}
    (hname : a.senders.lookup name = some channel) : b.senders.lookup name = some channel := by
  have hmem : (name, channel) ∈ a.senders.filter (·.2 == channel) :=
    (mem_filter_iff (p := (· == channel)) ha).mpr ⟨hname, beq_self_eq_true channel⟩
  rw [hab.senders] at hmem
  exact ((mem_filter_iff (p := (· == channel)) hb).mp hmem).1

theorem receiver (hab : Agree channel a b) (ha : (a.receivers.map Prod.fst).Nodup)
    (hb : (b.receivers.map Prod.fst).Nodup) {name : String} {r : Receiver}
    (hname : a.receivers.lookup name = some r) (hr : r.channel = channel) :
    b.receivers.lookup name = some r := by
  have hmem : (name, r) ∈ a.receivers.filter (·.2.isOn channel) :=
    (mem_filter_iff ha).mpr ⟨hname, Receiver.isOn_of_eq hr⟩
  rw [hab.receivers] at hmem
  exact ((mem_filter_iff hb).mp hmem).1

/-- Both hubs give a sender of the channel a name. -/
theorem hold_sender (hab : Agree channel a b) (name : String) :
    (hold name channel a.senders).filter (·.2 == channel) =
      (hold name channel b.senders).filter (·.2 == channel) := by
  have hself : (channel == channel) = true := beq_self_eq_true channel
  rw [filter_hold (p := (· == channel)) hself, filter_hold (p := (· == channel)) hself, hab.senders]

/-- Both hubs give a receiver of the channel a name. -/
theorem hold_receiver (hab : Agree channel a b) (name : String) {r : Receiver}
    (hr : r.channel = channel) :
    (hold name r a.receivers).filter (·.2.isOn channel) =
      (hold name r b.receivers).filter (·.2.isOn channel) := by
  have hself := Receiver.isOn_of_eq hr
  rw [filter_hold hself, filter_hold hself, hab.receivers]

theorem without_sender (hab : Agree channel a b) (name : String) :
    (without name a.senders).filter (·.2 == channel) =
      (without name b.senders).filter (·.2 == channel) := by
  rw [filter_without (p := (· == channel)), filter_without (p := (· == channel)), hab.senders]

theorem without_receiver (hab : Agree channel a b) (name : String) :
    (without name a.receivers).filter (·.2.isOn channel) =
      (without name b.receivers).filter (·.2.isOn channel) := by
  rw [filter_without, filter_without, hab.receivers]

end Agree

end Hub

section
variable {hub other : Hub} {h past : History} {channel : Nat}

theorem Hub.sent_length_le (hub : Hub) (action : Action) :
    hub.sent.length ≤ (hub.act action).1.sent.length := by
  cases action with
  | create sender => exact (List.length_append ▸ Nat.le_add_right _ _)
  | trigger sender =>
    rw [Hub.act]
    split
    · split
      · exact Nat.le_refl _
      · exact Nat.le_of_eq (List.length_set ..).symm
    · exact Nat.le_refl _
  | clone => rw [Hub.act]; split <;> exact Nat.le_refl _
  | subscribe => rw [Hub.act]; split <;> exact Nat.le_refl _
  | receive => rw [Hub.act]; split <;> exact Nat.le_refl _
  | dropSender => rw [Hub.act]; split <;> exact Nat.le_refl _
  | dropReceiver => rw [Hub.act]; split <;> exact Nat.le_refl _

theorem Follows.sender_apart (hf : Follows hub h) {name : String}
    (hname : h.senderChannel? name ≠ some channel) (y : Nat)
    (hy : hub.senders.lookup name = some y) : (y == channel) = false := by
  rw [hf.senders] at hy
  rw [beq_eq_false_iff_ne]
  rintro rfl
  exact hname hy

theorem Follows.receiver_apart (hf : Follows hub h) {name : String}
    (hname : h.receiverChannel? name ≠ some channel) (r : Receiver)
    (hr : hub.receivers.lookup name = some r) : r.isOn channel = false := by
  refine Receiver.isOn_of_ne ?_
  rintro rfl
  exact hname (hf.receiverChannel hr)

/-- An action that is not on a channel leaves all that is held of the channel. -/
theorem Follows.agree_of_apart (hf : Follows hub h) (hchannel : channel < hub.sent.length)
    {action : Action} (hanswering : h.answering? action ≠ some channel)
    (hdisplaced : h.displaced? action ≠ some channel) : Hub.Agree channel (hub.act action).1 hub := by
  have hsame : Hub.Agree channel hub hub := ⟨rfl, rfl, rfl⟩
  cases action with
  | create sender =>
    refine ⟨Hub.sentOn_append hchannel,
      Hub.filter_hold_other hf.senderNames ?_ (hf.sender_apart hdisplaced), rfl⟩
    exact beq_eq_false_iff_ne.mpr (Nat.ne_of_gt hchannel)
  | clone sender source =>
    have hsource := hf.senders source
    rw [Hub.act, hsource]
    cases hfound : h.senderChannel? source with
    | none => exact hsame
    | some found =>
      simp only [History.answering?, History.displaced?, hfound, Option.bind_some]
        at hanswering hdisplaced
      refine ⟨rfl, Hub.filter_hold_other hf.senderNames ?_ (hf.sender_apart hdisplaced), rfl⟩
      exact beq_eq_false_iff_ne.mpr fun heq => hanswering (congrArg some heq)
  | subscribe receiver source =>
    have hsource := hf.senders source
    rw [Hub.act, hsource]
    cases hfound : h.senderChannel? source with
    | none => exact hsame
    | some found =>
      simp only [History.answering?, History.displaced?, hfound, Option.bind_some]
        at hanswering hdisplaced
      refine ⟨rfl, rfl, Hub.filter_hold_other hf.receiverNames ?_ (hf.receiver_apart hdisplaced)⟩
      exact Receiver.isOn_of_ne fun heq => hanswering (congrArg some heq)
  | trigger sender =>
    have hheld := hf.senders sender
    rw [Hub.act, hheld]
    cases hfound : h.senderChannel? sender with
    | none => exact hsame
    | some found =>
      simp only [History.answering?, hfound] at hanswering
      dsimp only
      split
      · exact hsame
      · refine ⟨?_, rfl, rfl⟩
        rw [Hub.sentOn, Hub.sentOn_set (hf.sender_lt sender found hfound), if_neg]
        rintro rfl
        exact hanswering rfl
  | receive receiver =>
    rw [Hub.act]
    cases hfound : hub.receivers.lookup receiver with
    | none => exact hsame
    | some r =>
      have hmoved (position : Nat) : ({ r with position } : Receiver).isOn channel = false :=
        hf.receiver_apart hanswering r hfound
      exact ⟨rfl, rfl,
        Hub.filter_hold_other hf.receiverNames (hmoved _) (hf.receiver_apart hanswering)⟩
  | dropSender sender =>
    rw [Hub.act]
    cases hub.senders.lookup sender with
    | none => exact hsame
    | some found =>
      exact ⟨rfl, Hub.filter_without_other hf.senderNames (hf.sender_apart hanswering), rfl⟩
  | dropReceiver receiver =>
    rw [Hub.act]
    cases hub.receivers.lookup receiver with
    | none => exact hsame
    | some r =>
      exact ⟨rfl, rfl, Hub.filter_without_other hf.receiverNames (hf.receiver_apart hanswering)⟩

/-- An action put to a channel is answered alike by hubs that hold the same of it, and they still do. -/
theorem Follows.act_answering (hf : Follows hub h) (hp : Follows other past)
    (hagree : Hub.Agree channel hub other) {action : Action}
    (hanswering : h.answering? action = some channel) :
    (other.act action).2 = (hub.act action).2 ∧
      Hub.Agree channel (hub.act action).1 (other.act action).1 := by
  have hsender {name : String} (hname : h.senderChannel? name = some channel) :
      hub.senders.lookup name = some channel ∧ other.senders.lookup name = some channel := by
    have hheld : hub.senders.lookup name = some channel := (hf.senders name).trans hname
    exact ⟨hheld, hagree.sender hf.senderNames hp.senderNames hheld⟩
  have hreceiver {name : String} (hname : h.receiverChannel? name = some channel) :
      ∃ r, r.channel = channel ∧ hub.receivers.lookup name = some r ∧
        other.receivers.lookup name = some r := by
    rw [← hf.receivers] at hname
    obtain ⟨r, hheld, hr⟩ := Option.map_eq_some_iff.mp hname
    exact ⟨r, hr, hheld, hagree.receiver hf.receiverNames hp.receiverNames hheld hr⟩
  cases action with
  | create sender => cases hanswering
  | clone sender source =>
    obtain ⟨hhere, hthere⟩ := hsender hanswering
    rw [Hub.act, Hub.act, hhere, hthere]
    exact ⟨rfl, hagree.sent, hagree.hold_sender sender, hagree.receivers⟩
  | subscribe receiver source =>
    obtain ⟨hhere, hthere⟩ := hsender hanswering
    rw [Hub.act, Hub.act, hhere, hthere]
    dsimp only
    rw [hagree.sent]
    exact ⟨rfl, hagree.sent, hagree.senders, hagree.hold_receiver receiver rfl⟩
  | trigger sender =>
    obtain ⟨hhere, hthere⟩ := hsender hanswering
    have hlt := hf.sender_lt sender channel hanswering
    have hlt' : channel < other.sent.length := by
      rw [hp.senders] at hthere
      exact hp.sender_lt sender channel hthere
    rw [Hub.act, Hub.act, hhere, hthere]
    dsimp only
    rw [hagree.audience]
    split
    · exact ⟨rfl, hagree⟩
    · have hsent := (Hub.sentOn_set hlt (hub.sentOn channel + 1)).trans (if_pos rfl)
      have hsent' := (Hub.sentOn_set hlt' (other.sentOn channel + 1)).trans (if_pos rfl)
      have hcount : hub.sentOn channel + 1 = other.sentOn channel + 1 := congrArg (· + 1) hagree.sent
      exact ⟨rfl, hsent.trans (hcount.trans hsent'.symm), hagree.senders, hagree.receivers⟩
  | receive receiver =>
    obtain ⟨r, hr, hhere, hthere⟩ := hreceiver hanswering
    rw [Hub.act, Hub.act, hhere, hthere]
    subst hr
    dsimp only
    rw [hagree.sent, hagree.isAlive]
    exact ⟨rfl, hagree.sent, hagree.senders, hagree.hold_receiver receiver rfl⟩
  | dropSender sender =>
    obtain ⟨hhere, hthere⟩ := hsender hanswering
    rw [Hub.act, Hub.act, hhere, hthere]
    exact ⟨rfl, hagree.sent, hagree.without_sender sender, hagree.receivers⟩
  | dropReceiver receiver =>
    obtain ⟨r, hr, hhere, hthere⟩ := hreceiver hanswering
    rw [Hub.act, Hub.act, hhere, hthere]
    exact ⟨rfl, hagree.sent, hagree.senders, hagree.without_receiver receiver⟩

/-- An action that takes a name from a channel is to the channel the loss of an end. -/
theorem Follows.act_displaced (hf : Follows hub h) (hp : Follows other past)
    (hagree : Hub.Agree channel hub other) (hlt : channel < hub.sent.length) {action : Action}
    (hanswering : h.answering? action ≠ some channel)
    (hdisplaced : h.displaced? action = some channel) :
    (other.act action.surrender).2 = .dropped ∧
      Hub.Agree channel (hub.act action).1 (other.act action.surrender).1 := by
  have hsender {name : String} (hname : h.senderChannel? name = some channel) :
      other.senders.lookup name = some channel :=
    hagree.sender hf.senderNames hp.senderNames ((hf.senders name).trans hname)
  cases action with
  | create sender =>
    have hnew : (hub.sent.length == channel) = false := beq_eq_false_iff_ne.mpr (Nat.ne_of_gt hlt)
    rw [Action.surrender, Hub.act, Hub.act, hsender hdisplaced]
    refine ⟨rfl, (Hub.sentOn_append hlt).trans hagree.sent, ?_, hagree.receivers⟩
    exact (Hub.filter_hold_off (p := (· == channel)) hnew).trans (hagree.without_sender sender)
  | clone sender source =>
    have hsource := hf.senders source
    cases hfound : h.senderChannel? source with
    | none =>
      rw [History.displaced?, hfound] at hdisplaced
      cases hdisplaced
    | some found =>
      rw [hfound] at hsource
      simp only [History.answering?, History.displaced?, hfound, Option.bind_some]
        at hanswering hdisplaced
      have hnew : (found == channel) = false :=
        beq_eq_false_iff_ne.mpr fun heq => hanswering (congrArg some heq)
      rw [Action.surrender, Hub.act, Hub.act, hsender hdisplaced, hsource]
      refine ⟨rfl, hagree.sent, ?_, hagree.receivers⟩
      exact (Hub.filter_hold_off (p := (· == channel)) hnew).trans (hagree.without_sender sender)
  | subscribe receiver source =>
    have hsource := hf.senders source
    cases hfound : h.senderChannel? source with
    | none =>
      rw [History.displaced?, hfound] at hdisplaced
      cases hdisplaced
    | some found =>
      rw [hfound] at hsource
      simp only [History.answering?, History.displaced?, hfound, Option.bind_some]
        at hanswering hdisplaced
      have hnew (position : Nat) : (⟨found, position⟩ : Receiver).isOn channel = false :=
        Receiver.isOn_of_ne fun heq => hanswering (congrArg some heq)
      rw [← hf.receivers] at hdisplaced
      obtain ⟨r, hheld, hr⟩ := Option.map_eq_some_iff.mp hdisplaced
      have hthere := hagree.receiver hf.receiverNames hp.receiverNames hheld hr
      rw [Action.surrender, Hub.act, Hub.act, hthere, hsource]
      refine ⟨rfl, hagree.sent, hagree.senders, ?_⟩
      exact (Hub.filter_hold_off (hnew _)).trans (hagree.without_receiver receiver)
  | trigger sender => cases hdisplaced
  | receive receiver => cases hdisplaced
  | dropSender sender => cases hdisplaced
  | dropReceiver receiver => cases hdisplaced

/-- The actions put to a channel are answered as if nothing had been done on any other. -/
theorem Follows.run_portion (hf : Follows hub h) (hp : Follows other past)
    (hagree : Hub.Agree channel hub other) (hlt : channel < hub.sent.length) (actions : List Action) :
    (other.run ((hub.portion channel h actions).map Prod.fst)).2 =
      (hub.portion channel h actions).map Prod.snd := by
  induction actions generalizing hub h other past with
  | nil => rfl
  | cons action rest ih =>
    have hnext := hf.act action
    have hlength := Nat.lt_of_lt_of_le hlt (hub.sent_length_le action)
    have hlater {b : Hub} {g : History} (hb : Follows b g)
        (hagree' : Hub.Agree channel (hub.act action).1 b) := ih hnext hb hagree' hlength
    simp only [Hub.portion]
    by_cases hanswering : h.answering? action = some channel
    · obtain ⟨hreply, hagree'⟩ := hf.act_answering hp hagree hanswering
      rw [if_pos hanswering]
      exact List.cons_eq_cons.mpr ⟨hreply, hlater (hp.act action) hagree'⟩
    rw [if_neg hanswering]
    by_cases hdisplaced : h.displaced? action = some channel
    · obtain ⟨hreply, hagree'⟩ := hf.act_displaced hp hagree hlt hanswering hdisplaced
      rw [if_pos hdisplaced]
      exact List.cons_eq_cons.mpr ⟨hreply, hlater (hp.act action.surrender) hagree'⟩
    · have hsame := hf.agree_of_apart hlt hanswering hdisplaced
      rw [if_neg hdisplaced]
      exact hlater hp (hsame.trans hagree)

end

end Handoff.Shutdown
