import Handoff.Proofs.Shutdown.Channels

/-!
What the holders of a channel's ends are answered. A receiver is told of every request since it
subscribed, once, and what is done on one channel changes no answer on another.
-/

namespace Handoff.Shutdown

/-- A hub without channels. -/
def Hub.vacant : Hub := ⟨[], [], []⟩

section
variable {hub : Hub} {h : History}

theorem Follows.vacant : Follows .vacant [] where
  channels := rfl
  senderNames := List.nodup_nil
  receiverNames := List.nodup_nil
  senders := fun _ => rfl
  receivers := fun _ => rfl
  sender_lt := fun _ _ hchannel => by cases hchannel
  receiver_lt := fun _ _ hchannel => by cases hchannel
  position_le := fun _ _ hr => by cases hr
  unseen_eq := fun _ _ hr => by cases hr

/-- Actions that are carried out in order keep a hub as its history tells. -/
theorem Follows.run (hf : Follows hub h) (actions : List Action) :
    Follows (hub.run actions).1 ((actions.zip (hub.run actions).2).reverse ++ h) := by
  induction actions generalizing hub h with
  | nil => exact hf
  | cons action rest ih =>
    have hrest := ih (hf.act action)
    rw [List.append_cons, ← List.reverse_cons] at hrest
    exact hrest

/-! Who is there. -/

theorem Follows.isAlive_iff (hf : Follows hub h) {channel : Nat} :
    hub.isAlive channel = true ↔ ∃ sender, h.senderChannel? sender = some channel := by
  rw [Hub.isAlive, List.any_eq_true]
  constructor
  · rintro ⟨⟨sender, other⟩, hmem, hother⟩
    obtain rfl : other = channel := eq_of_beq hother
    refine ⟨sender, ?_⟩
    rw [← hf.senders]
    exact (Hub.mem_iff_lookup hf.senderNames).mp hmem
  · rintro ⟨sender, hsender⟩
    rw [← hf.senders] at hsender
    exact ⟨(sender, channel), (Hub.mem_iff_lookup hf.senderNames).mpr hsender, beq_self_eq_true channel⟩

/-- The audience of a channel is counted by the names of its receivers. -/
theorem Follows.audience_names (hf : Follows hub h) (channel : Nat) :
    ∃ names : List String, names.Nodup ∧
      (∀ name, name ∈ names ↔ h.receiverChannel? name = some channel) ∧
      hub.audience channel = names.length := by
  refine ⟨(hub.receivers.filter (·.2.channel == channel)).map Prod.fst, ?_, fun name => ?_, ?_⟩
  · exact hf.receiverNames.sublist (List.filter_sublist.map Prod.fst)
  · rw [← hf.receivers]
    constructor
    · intro hname
      obtain ⟨⟨_, r⟩, hmem, rfl⟩ := List.mem_map.mp hname
      obtain ⟨hheld, hchannel⟩ := List.mem_filter.mp hmem
      rw [(Hub.mem_iff_lookup hf.receiverNames).mp hheld, ← eq_of_beq hchannel]
      rfl
    · intro hname
      obtain ⟨r, hr, hchannel⟩ := Option.map_eq_some_iff.mp hname
      refine List.mem_map.mpr ⟨(name, r), List.mem_filter.mpr ⟨?_, beq_iff_eq.mpr hchannel⟩, rfl⟩
      exact (Hub.mem_iff_lookup hf.receiverNames).mpr hr
  · rw [Hub.audience, List.countP_eq_length_filter, List.length_map]

/-! What a receiver and a sender are answered. -/

/-- The answer to a receiver that has so many requests still to be told of. -/
def Hub.answer (alive : Bool) : Nat → Reception
  | 0 => if alive then .empty else .closed
  | 1 => .ok
  | n + 2 => .lagged (n + 1)

/-- A receiver has still to be told of some number of requests, and is answered by that number. -/
theorem Follows.receive_reply (hf : Follows hub h) {receiver : String} {channel : Nat}
    (hchannel : h.receiverChannel? receiver = some channel) :
    ∃ n : Nat, h.unseen receiver = n ∧
      (hub.act (.receive receiver)).2 = .received (Hub.answer (hub.isAlive channel) n) := by
  rw [← hf.receivers] at hchannel
  obtain ⟨r, hr, rfl⟩ := Option.map_eq_some_iff.mp hchannel
  obtain ⟨_, hle, hunseen⟩ := hf.held hr
  refine ⟨hub.sentOn r.channel - r.position, by omega, ?_⟩
  rw [Hub.act, hr]
  dsimp only
  rcases Follows.receive_cases (hub.sentOn r.channel) (hub.isAlive r.channel) hle with
    ⟨hsent, hreceive⟩ | ⟨hsent, hreceive⟩ | ⟨hsent, hreceive⟩
  · rw [hreceive, hsent, Nat.sub_self]
    rfl
  · rw [hreceive, hsent, Nat.add_sub_cancel_left]
    rfl
  · obtain ⟨n, hn⟩ := Nat.exists_eq_add_of_le hsent
    have hmissed : hub.sentOn r.channel - r.position = n + 2 := by omega
    rw [hreceive, hmissed]
    rfl

theorem Follows.trigger_reply (hf : Follows hub h) {sender : String} {channel : Nat}
    (hchannel : h.senderChannel? sender = some channel) :
    (hub.act (.trigger sender)).2 = .notified (hub.audience channel) ∧
      (hub.audience channel = 0 → (hub.act (.trigger sender)).1 = hub) := by
  rw [← hf.senders] at hchannel
  rw [Hub.act, hchannel]
  dsimp only
  split
  · rename_i hnone
    exact ⟨by rw [hnone], fun _ => rfl⟩
  · rename_i hsome
    exact ⟨rfl, fun hnone => absurd hnone hsome⟩

end

/-- The holders of ends are answered as the history has it. -/
structure Answers (hub : Hub) (h : History) : Prop where
  /-- Nobody is told of more requests than were made. -/
  unseen_nonneg : ∀ receiver channel, h.receiverChannel? receiver = some channel → 0 ≤ h.unseen receiver
  ok : ∀ receiver channel, h.receiverChannel? receiver = some channel → h.unseen receiver = 1 →
    (hub.act (.receive receiver)).2 = .received .ok
  lagged : ∀ receiver channel, h.receiverChannel? receiver = some channel → 2 ≤ h.unseen receiver →
    (hub.act (.receive receiver)).2 = .received (.lagged (h.unseen receiver - 1).toNat)
  empty : ∀ receiver channel, h.receiverChannel? receiver = some channel → h.unseen receiver = 0 →
    (∃ sender, h.senderChannel? sender = some channel) →
    (hub.act (.receive receiver)).2 = .received .empty
  closed : ∀ receiver channel, h.receiverChannel? receiver = some channel → h.unseen receiver = 0 →
    (∀ sender, h.senderChannel? sender ≠ some channel) →
    (hub.act (.receive receiver)).2 = .received .closed
  /-- A sender is told how many receivers its channel has. -/
  notified : ∀ sender channel, h.senderChannel? sender = some channel →
    ∃ receivers : List String, receivers.Nodup ∧
      (∀ receiver, receiver ∈ receivers ↔ h.receiverChannel? receiver = some channel) ∧
      (hub.act (.trigger sender)).2 = .notified receivers.length
  /-- A request that nobody can receive leaves no trace. -/
  unheard : ∀ sender channel, h.senderChannel? sender = some channel →
    (∀ receiver, h.receiverChannel? receiver ≠ some channel) →
    hub.act (.trigger sender) = (hub, .notified 0)
  /-- A channel answers as if nothing were done on any other. -/
  apart : ∀ channel < h.channelCount, ∀ actions,
    (hub.run ((hub.portion channel h actions).map Prod.fst)).2 =
      (hub.portion channel h actions).map Prod.snd

theorem Follows.answers {hub : Hub} {h : History} (hf : Follows hub h) : Answers hub h where
  unseen_nonneg := by
    intro receiver channel hchannel
    obtain ⟨n, hunseen, _⟩ := hf.receive_reply hchannel
    omega
  ok := by
    intro receiver channel hchannel hone
    obtain ⟨n, hunseen, hreply⟩ := hf.receive_reply hchannel
    have hn : n = 1 := by omega
    rw [hreply, hn, Hub.answer]
  lagged := by
    intro receiver channel hchannel hmany
    obtain ⟨n, hunseen, hreply⟩ := hf.receive_reply hchannel
    obtain ⟨m, hm⟩ : ∃ m, n = m + 2 := ⟨n - 2, by omega⟩
    have hmissed : (h.unseen receiver - 1).toNat = m + 1 := by omega
    rw [hreply, hmissed, hm, Hub.answer]
  empty := by
    intro receiver channel hchannel hnone hsender
    obtain ⟨n, hunseen, hreply⟩ := hf.receive_reply hchannel
    have hn : n = 0 := by omega
    rw [hreply, hn, hf.isAlive_iff.mpr hsender, Hub.answer, if_pos rfl]
  closed := by
    intro receiver channel hchannel hnone hnobody
    obtain ⟨n, hunseen, hreply⟩ := hf.receive_reply hchannel
    have hn : n = 0 := by omega
    have hdead : hub.isAlive channel = false := by
      rw [← Bool.not_eq_true, hf.isAlive_iff]
      exact fun ⟨sender, hsender⟩ => hnobody sender hsender
    rw [hreply, hn, hdead, Hub.answer]
    rfl
  notified := by
    intro sender channel hchannel
    obtain ⟨receivers, hnodup, hmem, hcount⟩ := hf.audience_names channel
    exact ⟨receivers, hnodup, hmem, hcount ▸ (hf.trigger_reply hchannel).1⟩
  unheard := by
    intro sender channel hchannel hnobody
    obtain ⟨receivers, _, hmem, hcount⟩ := hf.audience_names channel
    have hempty : receivers = [] :=
      List.eq_nil_iff_forall_not_mem.mpr fun receiver hin => hnobody receiver ((hmem receiver).mp hin)
    have hzero : hub.audience channel = 0 := by rw [hcount, hempty, List.length_nil]
    obtain ⟨hreply, hkept⟩ := hf.trigger_reply hchannel
    exact Prod.ext (hkept hzero) (hzero ▸ hreply)
  apart := by
    intro channel hlt actions
    rw [← hf.channels] at hlt
    exact hf.run_portion hf ⟨rfl, rfl, rfl⟩ hlt actions

/-- No request is lost or told of twice, whatever is done on any number of channels. -/
theorem Hub.run_answers (actions : List Action) :
    Answers (Hub.vacant.run actions).1 (actions.zip (Hub.vacant.run actions).2).reverse := by
  have hf := Follows.vacant.run actions
  rw [List.append_nil] at hf
  exact hf.answers

-- A request is received even if the last sender has gone.
example :
    (Hub.vacant.run [.create "main", .subscribe "worker" "main", .trigger "main", .dropSender "main",
      .receive "worker", .receive "worker"]).2 =
    [.created, .subscribed, .notified 1, .dropped, .received .ok, .received .closed] := by
  decide

end Handoff.Shutdown
