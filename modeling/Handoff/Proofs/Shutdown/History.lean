import Handoff.Shutdown.Hub

/-!
A hub told by what was done to it. A history says who holds an end of which channel, and how many
requests a receiver has still to be told of; `Follows` ties a hub to its history, action by action.
-/

namespace Handoff.Shutdown

/-- The actions that were carried out, with their replies, the last one first. -/
abbrev History := List (Action × Reply)

namespace History

/-- The number of channels that were opened. -/
def channelCount : History → Nat
  | [] => 0
  | (.create _, _) :: past => channelCount past + 1
  | _ :: past => channelCount past

/-- The channel of the sender that is held under a name. Channels are numbered as they are opened. -/
def senderChannel? : History → String → Option Nat
  | [], _ => none
  | (.create sender, _) :: past, name =>
    if sender = name then some (channelCount past) else senderChannel? past name
  | (.clone sender source, _) :: past, name =>
    if sender = name ∧ (senderChannel? past source).isSome then senderChannel? past source
    else senderChannel? past name
  | (.dropSender sender, _) :: past, name => if sender = name then none else senderChannel? past name
  | _ :: past, name => senderChannel? past name

/-- The channel of the receiver that is held under a name. -/
def receiverChannel? : History → String → Option Nat
  | [], _ => none
  | (.subscribe receiver source, _) :: past, name =>
    if receiver = name ∧ (senderChannel? past source).isSome then senderChannel? past source
    else receiverChannel? past name
  | (.dropReceiver receiver, _) :: past, name =>
    if receiver = name then none else receiverChannel? past name
  | _ :: past, name => receiverChannel? past name

end History

/-- What happened on a receiver's channel since the receiver subscribed. -/
structure Tally where
  -- The requests that were made.
  requests : Nat := 0
  -- The requests that it received.
  taken : Nat := 0
  -- The requests that it was told to have missed.
  missed : Nat := 0
deriving DecidableEq, Repr

namespace History

/-- What happened since the receiver that is held under a name subscribed. -/
def tally : History → String → Tally
  | [], _ => {}
  | (.subscribe receiver source, _) :: past, name =>
    if receiver = name ∧ (senderChannel? past source).isSome then {} else tally past name
  | (.trigger sender, _) :: past, name =>
    let before := tally past name
    if (senderChannel? past sender).isSome ∧
        senderChannel? past sender = receiverChannel? past name then
      { before with requests := before.requests + 1 }
    else before
  | (.receive receiver, .received .ok) :: past, name =>
    let before := tally past name
    if receiver = name then { before with taken := before.taken + 1 } else before
  | (.receive receiver, .received (.lagged missed)) :: past, name =>
    let before := tally past name
    if receiver = name then { before with missed := before.missed + missed } else before
  | _ :: past, name => tally past name

/-- The requests that a receiver has still to be told of. -/
def unseen (h : History) (name : String) : Int :=
  (h.tally name).requests - (h.tally name).taken - (h.tally name).missed

end History

/-! Things held under names. -/

namespace Hub

section
variable {α : Type} {name other : String} {x : α} {held : List (String × α)}

theorem lookup_cons (key : String) (y : α) :
    ((key, y) :: held).lookup other = if other = key then some y else held.lookup other := by
  rw [List.lookup_cons]
  by_cases hother : other = key
  · simp [hother]
  · have hfalse : (other == key) = false := by simpa using hother
    simp [hfalse, hother]

theorem lookup_without :
    (without name held).lookup other = if other = name then none else held.lookup other := by
  induction held with
  | nil => simp [without]
  | cons entry held ih =>
    obtain ⟨key, y⟩ := entry
    rw [lookup_cons]
    by_cases hkey : key = name
    · subst hkey
      have hdrop : without key ((key, y) :: held) = without key held := by simp [without]
      rw [hdrop, ih]
      split
      · rfl
      · rfl
    · have hkeep : without name ((key, y) :: held) = (key, y) :: without name held := by
        simp [without, hkey]
      rw [hkeep, lookup_cons, ih]
      by_cases hother : other = key
      · simp [hother, hkey]
      · simp [hother]

theorem lookup_hold :
    (hold name x held).lookup other = if other = name then some x else held.lookup other := by
  rw [hold, lookup_cons, lookup_without]
  split
  · rfl
  · rfl

theorem nodup_without (h : (held.map Prod.fst).Nodup) : ((without name held).map Prod.fst).Nodup :=
  h.sublist (List.filter_sublist.map Prod.fst)

theorem nodup_hold (h : (held.map Prod.fst).Nodup) : ((hold name x held).map Prod.fst).Nodup := by
  have hnew : name ∉ (without name held).map Prod.fst := by simp [without]
  exact List.nodup_cons.mpr ⟨hnew, nodup_without h⟩

/-- What is held under distinct names is found under them. -/
theorem mem_iff_lookup (h : (held.map Prod.fst).Nodup) :
    (name, x) ∈ held ↔ held.lookup name = some x := by
  induction held with
  | nil => simp
  | cons entry held ih =>
    obtain ⟨key, y⟩ := entry
    obtain ⟨hnew, hrest⟩ := List.nodup_cons.mp h
    rw [List.mem_cons, lookup_cons, Prod.mk.injEq, ih hrest]
    by_cases hname : name = key
    · subst hname
      have hnone : held.lookup name ≠ some x := by
        intro hfound
        have hmem : (name, x) ∈ held := (ih hrest).mpr hfound
        exact hnew (List.mem_map.mpr ⟨(name, x), hmem, rfl⟩)
      simp [hnone, eq_comm]
    · simp [hname]

end

theorem sentOn_append {hub : Hub} {channel : Nat} (h : channel < hub.sent.length) :
    (hub.sent ++ [0])[channel]?.getD 0 = hub.sentOn channel := by
  rw [List.getElem?_append_left h]
  rfl

theorem sentOn_set {hub : Hub} {channel other : Nat} (h : channel < hub.sent.length) (n : Nat) :
    (hub.sent.set channel n)[other]?.getD 0 = if other = channel then n else hub.sentOn other := by
  rw [List.getElem?_set]
  by_cases hother : other = channel
  · subst hother
    simp [h]
  · simp [hother, Ne.symm hother]
    rfl

/-- A channel has an audience if a receiver of it is held. -/
theorem audience_pos {hub : Hub} {name : String} {r : Receiver}
    (hnames : (hub.receivers.map Prod.fst).Nodup) (h : hub.receivers.lookup name = some r) :
    0 < hub.audience r.channel := by
  rw [audience, List.countP_pos_iff]
  exact ⟨(name, r), (mem_iff_lookup hnames).mpr h, by simp⟩

end Hub

/-- The hub is as its history tells. -/
structure Follows (hub : Hub) (h : History) : Prop where
  channels : hub.sent.length = h.channelCount
  senderNames : (hub.senders.map Prod.fst).Nodup
  receiverNames : (hub.receivers.map Prod.fst).Nodup
  senders : ∀ name, hub.senders.lookup name = h.senderChannel? name
  receivers : ∀ name, (hub.receivers.lookup name).map Receiver.channel = h.receiverChannel? name
  sender_lt : ∀ name channel, h.senderChannel? name = some channel → channel < hub.sent.length
  receiver_lt : ∀ name channel, h.receiverChannel? name = some channel → channel < hub.sent.length
  position_le : ∀ name r, hub.receivers.lookup name = some r → r.position ≤ hub.sentOn r.channel
  unseen_eq : ∀ name r, hub.receivers.lookup name = some r →
    h.unseen name = hub.sentOn r.channel - r.position

namespace Follows

variable {hub : Hub} {h : History}

theorem receiverChannel (hf : Follows hub h) {name : String} {r : Receiver}
    (hr : hub.receivers.lookup name = some r) : h.receiverChannel? name = some r.channel := by
  rw [← hf.receivers, hr]
  rfl

/-- An action without effect keeps a hub and what its history says. -/
theorem idle (hf : Follows hub h) {h' : History} (hcount : h'.channelCount = h.channelCount)
    (hsenders : ∀ name, h'.senderChannel? name = h.senderChannel? name)
    (hreceivers : ∀ name, h'.receiverChannel? name = h.receiverChannel? name)
    (hunseen : ∀ name, h'.unseen name = h.unseen name) : Follows hub h' where
  channels := hf.channels.trans hcount.symm
  senderNames := hf.senderNames
  receiverNames := hf.receiverNames
  senders := fun name => (hf.senders name).trans (hsenders name).symm
  receivers := fun name => (hf.receivers name).trans (hreceivers name).symm
  sender_lt :=
    fun name channel hchannel => hf.sender_lt name channel ((hsenders name).symm.trans hchannel)
  receiver_lt := fun name channel hchannel =>
    hf.receiver_lt name channel ((hreceivers name).symm.trans hchannel)
  position_le := hf.position_le
  unseen_eq := fun name r hr => (hunseen name).trans (hf.unseen_eq name r hr)

/-- An action on senders, which may open a channel, leaves the receivers as they are. -/
theorem withSenders (hf : Follows hub h) {h' : History} {sent : List Nat}
    {senders : List (String × Nat)} (hlength : hub.sent.length ≤ sent.length)
    (hsent : ∀ channel < hub.sent.length, sent[channel]?.getD 0 = hub.sentOn channel)
    (hcount : sent.length = h'.channelCount) (hnames : (senders.map Prod.fst).Nodup)
    (hsenders : ∀ name, senders.lookup name = h'.senderChannel? name)
    (hlt : ∀ name channel, h'.senderChannel? name = some channel → channel < sent.length)
    (hreceivers : ∀ name, h'.receiverChannel? name = h.receiverChannel? name)
    (hunseen : ∀ name, h'.unseen name = h.unseen name) : Follows ⟨sent, senders, hub.receivers⟩ h' where
  channels := hcount
  senderNames := hnames
  receiverNames := hf.receiverNames
  senders := hsenders
  receivers := fun name => (hf.receivers name).trans (hreceivers name).symm
  sender_lt := hlt
  receiver_lt := by
    intro name channel hchannel
    rw [hreceivers] at hchannel
    exact Nat.lt_of_lt_of_le (hf.receiver_lt name channel hchannel) hlength
  position_le := by
    intro name r hr
    have hchannel := hsent r.channel (hf.receiver_lt name r.channel (hf.receiverChannel hr))
    change r.position ≤ sent[r.channel]?.getD 0
    rw [hchannel]
    exact hf.position_le name r hr
  unseen_eq := by
    intro name r hr
    have hchannel := hsent r.channel (hf.receiver_lt name r.channel (hf.receiverChannel hr))
    change h'.unseen name = (sent[r.channel]?.getD 0 : Nat) - (r.position : Int)
    rw [hchannel, hunseen]
    exact hf.unseen_eq name r hr

theorem create (hf : Follows hub h) (sender : String) :
    Follows (hub.act (.create sender)).1 ((.create sender, (hub.act (.create sender)).2) :: h) := by
  have hlength : (hub.sent ++ [0]).length = hub.sent.length + 1 := by simp
  refine hf.withSenders (by omega) (fun channel hlt => Hub.sentOn_append hlt) ?_
    (Hub.nodup_hold hf.senderNames) ?_ ?_ (fun _ => rfl) fun _ => rfl
  · exact hlength.trans (congrArg (· + 1) hf.channels)
  · intro name
    change _ = if sender = name then some h.channelCount else h.senderChannel? name
    rw [Hub.lookup_hold, hf.senders, hf.channels]
    simp [eq_comm]
  · intro name channel hchannel
    change (if sender = name then some h.channelCount else h.senderChannel? name) =
      some channel at hchannel
    rw [hlength]
    split at hchannel
    · have hnew : h.channelCount = channel := Option.some.inj hchannel
      have hcount := hf.channels
      omega
    · exact Nat.lt_succ_of_lt (hf.sender_lt name channel hchannel)

theorem clone (hf : Follows hub h) (sender source : String) :
    Follows (hub.act (.clone sender source)).1
      ((.clone sender source, (hub.act (.clone sender source)).2) :: h) := by
  have hsource := hf.senders source
  have hhistory (reply : Reply) (name : String) :
      History.senderChannel? ((.clone sender source, reply) :: h) name =
        if sender = name ∧ (h.senderChannel? source).isSome then h.senderChannel? source
        else h.senderChannel? name := rfl
  rw [Hub.act]
  cases hfound : h.senderChannel? source with
  | none =>
    rw [hfound] at hsource
    rw [hsource]
    refine hf.idle rfl (fun name => ?_) (fun _ => rfl) fun _ => rfl
    rw [hhistory, hfound]
    simp
  | some channel =>
    rw [hfound] at hsource
    rw [hsource]
    refine hf.withSenders (Nat.le_refl _) (fun _ _ => rfl) hf.channels
      (Hub.nodup_hold hf.senderNames) ?_ ?_ (fun _ => rfl) fun _ => rfl
    · intro name
      rw [Hub.lookup_hold, hf.senders, hhistory, hfound]
      simp [eq_comm]
    · intro name other hother
      rw [hhistory, hfound] at hother
      split at hother
      · obtain rfl := Option.some.inj hother
        exact hf.sender_lt source channel hfound
      · exact hf.sender_lt name other hother

theorem dropSender (hf : Follows hub h) (sender : String) :
    Follows (hub.act (.dropSender sender)).1
      ((.dropSender sender, (hub.act (.dropSender sender)).2) :: h) := by
  have hheld := hf.senders sender
  have hhistory (reply : Reply) (name : String) :
      History.senderChannel? ((.dropSender sender, reply) :: h) name =
        if sender = name then none else h.senderChannel? name := rfl
  rw [Hub.act]
  cases hfound : h.senderChannel? sender with
  | none =>
    rw [hfound] at hheld
    rw [hheld]
    refine hf.idle rfl (fun name => ?_) (fun _ => rfl) fun _ => rfl
    rw [hhistory]
    split
    · rename_i hname
      rw [← hname, hfound]
    · rfl
  | some channel =>
    rw [hfound] at hheld
    rw [hheld]
    refine hf.withSenders (Nat.le_refl _) (fun _ _ => rfl) hf.channels
      (Hub.nodup_without hf.senderNames) ?_ ?_ (fun _ => rfl) fun _ => rfl
    · intro name
      rw [Hub.lookup_without, hf.senders, hhistory]
      simp [eq_comm]
    · intro name other hother
      rw [hhistory] at hother
      split at hother
      · cases hother
      · exact hf.sender_lt name other hother

/-- An action on receivers leaves the senders as they are. -/
theorem withReceivers (hf : Follows hub h) {h' : History} {receivers : List (String × Receiver)}
    (hcount : h'.channelCount = h.channelCount)
    (hsenders : ∀ name, h'.senderChannel? name = h.senderChannel? name)
    (hnames : (receivers.map Prod.fst).Nodup)
    (hreceivers : ∀ name, (receivers.lookup name).map Receiver.channel = h'.receiverChannel? name)
    (hheld : ∀ name r, receivers.lookup name = some r → r.channel < hub.sent.length ∧
      r.position ≤ hub.sentOn r.channel ∧ h'.unseen name = hub.sentOn r.channel - r.position) :
    Follows { hub with receivers } h' where
  channels := hf.channels.trans hcount.symm
  senderNames := hf.senderNames
  receiverNames := hnames
  senders := fun name => (hf.senders name).trans (hsenders name).symm
  receivers := hreceivers
  sender_lt :=
    fun name channel hchannel => hf.sender_lt name channel ((hsenders name).symm.trans hchannel)
  receiver_lt := by
    intro name channel hchannel
    rw [← hreceivers] at hchannel
    obtain ⟨r, hr, rfl⟩ := Option.map_eq_some_iff.mp hchannel
    exact (hheld name r hr).1
  position_le := fun name r hr => (hheld name r hr).2.1
  unseen_eq := fun name r hr => (hheld name r hr).2.2

/-- What is known of a receiver that is held. -/
theorem held (hf : Follows hub h) {name : String} {r : Receiver}
    (hr : hub.receivers.lookup name = some r) :
    r.channel < hub.sent.length ∧ r.position ≤ hub.sentOn r.channel ∧
      h.unseen name = hub.sentOn r.channel - r.position :=
  ⟨hf.receiver_lt name r.channel (hf.receiverChannel hr), hf.position_le name r hr,
    hf.unseen_eq name r hr⟩

theorem subscribe (hf : Follows hub h) (receiver source : String) :
    Follows (hub.act (.subscribe receiver source)).1
      ((.subscribe receiver source, (hub.act (.subscribe receiver source)).2) :: h) := by
  have hsource := hf.senders source
  have hhistory (reply : Reply) (name : String) :
      History.receiverChannel? ((.subscribe receiver source, reply) :: h) name =
        if receiver = name ∧ (h.senderChannel? source).isSome then h.senderChannel? source
        else h.receiverChannel? name := rfl
  have htally (reply : Reply) (name : String) :
      History.tally ((.subscribe receiver source, reply) :: h) name =
        if receiver = name ∧ (h.senderChannel? source).isSome then {} else h.tally name := rfl
  rw [Hub.act]
  cases hfound : h.senderChannel? source with
  | none =>
    rw [hfound] at hsource
    rw [hsource]
    refine hf.idle rfl (fun _ => rfl) (fun name => ?_) fun name => ?_
    · rw [hhistory, hfound]
      simp
    · rw [History.unseen, htally, hfound]
      simp [History.unseen]
  | some channel =>
    rw [hfound] at hsource
    rw [hsource]
    refine hf.withReceivers rfl (fun _ => rfl) (Hub.nodup_hold hf.receiverNames) ?_ ?_
    · intro name
      rw [Hub.lookup_hold, hhistory, hfound]
      by_cases hname : name = receiver
      · simp [hname]
      · simp [hname, Ne.symm hname, hf.receivers]
    · intro name r hr
      rw [Hub.lookup_hold] at hr
      by_cases hname : name = receiver
      · subst hname
        rw [if_pos rfl] at hr
        obtain rfl := Option.some.inj hr
        refine ⟨hf.sender_lt source channel hfound, Nat.le_refl _, ?_⟩
        rw [History.unseen, htally, hfound]
        simp
      · rw [if_neg hname] at hr
        refine ⟨(hf.held hr).1, (hf.held hr).2.1, ?_⟩
        rw [← (hf.held hr).2.2, History.unseen, htally]
        simp [Ne.symm hname, History.unseen]

theorem dropReceiver (hf : Follows hub h) (receiver : String) :
    Follows (hub.act (.dropReceiver receiver)).1
      ((.dropReceiver receiver, (hub.act (.dropReceiver receiver)).2) :: h) := by
  have hhistory (reply : Reply) (name : String) :
      History.receiverChannel? ((.dropReceiver receiver, reply) :: h) name =
        if receiver = name then none else h.receiverChannel? name := rfl
  rw [Hub.act]
  cases hfound : hub.receivers.lookup receiver with
  | none =>
    refine hf.idle rfl (fun _ => rfl) (fun name => ?_) fun _ => rfl
    rw [hhistory]
    split
    · rename_i hname
      rw [← hname, ← hf.receivers, hfound]
      rfl
    · rfl
  | some r =>
    refine hf.withReceivers rfl (fun _ => rfl) (Hub.nodup_without hf.receiverNames) ?_ ?_
    · intro name
      rw [Hub.lookup_without, hhistory]
      by_cases hname : name = receiver
      · simp [hname]
      · simp [hname, Ne.symm hname, hf.receivers]
    · intro name other hother
      rw [Hub.lookup_without] at hother
      split at hother
      · cases hother
      · exact hf.held hother

/-- A receiver is told what the requests that it has not seen come to, and has then seen what it was
told. -/
theorem receive_cases (sent : Nat) (alive : Bool) {position : Nat} (h : position ≤ sent) :
    sent = position ∧
      Shutdown.receive sent alive position = (if alive then .empty else .closed, position) ∨
    sent = position + 1 ∧ Shutdown.receive sent alive position = (.ok, position + 1) ∨
    position + 2 ≤ sent ∧
      Shutdown.receive sent alive position = (.lagged (sent - position - 1), sent - 1) := by
  unfold Shutdown.receive
  by_cases hnone : sent ≤ position
  · exact Or.inl ⟨Nat.le_antisymm hnone h, if_pos hnone⟩
  · rw [if_neg hnone]
    by_cases hone : sent = position + 1
    · exact Or.inr (Or.inl ⟨hone, if_pos hone⟩)
    · exact Or.inr (Or.inr ⟨by omega, if_neg hone⟩)

theorem receive (hf : Follows hub h) (receiver : String) :
    Follows (hub.act (.receive receiver)).1
      ((.receive receiver, (hub.act (.receive receiver)).2) :: h) := by
  rw [Hub.act]
  cases hfound : hub.receivers.lookup receiver with
  | none => exact hf.idle rfl (fun _ => rfl) (fun _ => rfl) fun _ => rfl
  | some r =>
    obtain ⟨hlt, hle, hunseen⟩ := hf.held hfound
    -- The receiver stays on its channel, at the position that what it is told takes it to.
    have hkeeps (reception : Reception) (position : Nat) (hposition : position ≤ hub.sentOn r.channel)
        (htold : History.unseen ((.receive receiver, .received reception) :: h) receiver =
          hub.sentOn r.channel - position)
        (hothers : ∀ name, name ≠ receiver →
          History.unseen ((.receive receiver, .received reception) :: h) name = h.unseen name) :
        Follows { hub with receivers := Hub.hold receiver { r with position } hub.receivers }
          ((.receive receiver, .received reception) :: h) := by
      refine hf.withReceivers rfl (fun _ => rfl) (Hub.nodup_hold hf.receiverNames) ?_ ?_
      · intro name
        change _ = h.receiverChannel? name
        rw [Hub.lookup_hold, ← hf.receivers]
        by_cases hname : name = receiver
        · simp [hname, hfound]
        · simp [hname]
      · intro name other hother
        rw [Hub.lookup_hold] at hother
        by_cases hname : name = receiver
        · subst hname
          rw [if_pos rfl] at hother
          obtain rfl := Option.some.inj hother
          exact ⟨hlt, hposition, htold⟩
        · rw [if_neg hname] at hother
          rw [hothers name hname]
          exact hf.held hother
    have htally (reception : Reception) (name : String) :
        History.tally ((.receive receiver, .received reception) :: h) name =
          if receiver = name then
            match reception with
            | .ok => { h.tally name with taken := (h.tally name).taken + 1 }
            | .lagged missed => { h.tally name with missed := (h.tally name).missed + missed }
            | _ => h.tally name
          else h.tally name := by
      cases reception <;> simp [History.tally]
    have hothers (reception : Reception) (name : String) (hname : name ≠ receiver) :
        History.unseen ((.receive receiver, .received reception) :: h) name = h.unseen name := by
      rw [History.unseen, htally, if_neg (Ne.symm hname)]
      rfl
    rw [History.unseen] at hunseen
    dsimp only
    rcases receive_cases (hub.sentOn r.channel) (hub.isAlive r.channel) hle with
      ⟨hsent, hreceive⟩ | ⟨hsent, hreceive⟩ | ⟨hsent, hreceive⟩
    · rw [hreceive]
      refine hkeeps _ _ hle ?_ (hothers _)
      rw [History.unseen, htally, if_pos rfl]
      cases hub.isAlive r.channel <;> exact hunseen
    · rw [hreceive]
      refine hkeeps _ _ (Nat.le_of_eq hsent.symm) ?_ (hothers _)
      rw [History.unseen, htally, if_pos rfl]
      dsimp only
      omega
    · rw [hreceive]
      refine hkeeps _ _ (Nat.sub_le _ _) ?_ (hothers _)
      rw [History.unseen, htally, if_pos rfl]
      dsimp only
      omega

theorem trigger (hf : Follows hub h) (sender : String) :
    Follows (hub.act (.trigger sender)).1
      ((.trigger sender, (hub.act (.trigger sender)).2) :: h) := by
  have hheld := hf.senders sender
  have htally (reply : Reply) (name : String) :
      History.tally ((.trigger sender, reply) :: h) name =
        if (h.senderChannel? sender).isSome ∧ h.senderChannel? sender = h.receiverChannel? name then
          { h.tally name with requests := (h.tally name).requests + 1 }
        else h.tally name := rfl
  rw [Hub.act]
  cases hfound : h.senderChannel? sender with
  | none =>
    rw [hfound] at hheld
    rw [hheld]
    refine hf.idle rfl (fun _ => rfl) (fun _ => rfl) fun name => ?_
    rw [History.unseen, htally, hfound]
    simp [History.unseen]
  | some channel =>
    rw [hfound] at hheld
    rw [hheld]
    have hlt := hf.sender_lt sender channel hfound
    dsimp only
    by_cases haudience : hub.audience channel = 0
    -- Nobody is there to find the request, so none is left.
    · rw [if_pos haudience]
      refine hf.idle rfl (fun _ => rfl) (fun _ => rfl) fun name => ?_
      have hnobody : h.receiverChannel? name ≠ some channel := by
        intro hchannel
        rw [← hf.receivers] at hchannel
        obtain ⟨r, hr, rfl⟩ := Option.map_eq_some_iff.mp hchannel
        exact Nat.lt_irrefl 0 (haudience ▸ Hub.audience_pos hf.receiverNames hr)
      rw [History.unseen, htally, hfound, if_neg fun hsame => hnobody hsame.2.symm]
      rfl
    · rw [if_neg haudience]
      have hsent (other : Nat) : (hub.sent.set channel (hub.sentOn channel + 1))[other]?.getD 0 =
          if other = channel then hub.sentOn channel + 1 else hub.sentOn other :=
        Hub.sentOn_set hlt (hub.sentOn channel + 1)
      have hreceiver (name : String) (r : Receiver) (hr : hub.receivers.lookup name = some r) :
          r.position ≤ (hub.sent.set channel (hub.sentOn channel + 1))[r.channel]?.getD 0 ∧
            History.unseen ((.trigger sender, .notified (hub.audience channel)) :: h) name =
              ((hub.sent.set channel (hub.sentOn channel + 1))[r.channel]?.getD 0 : Nat) -
                (r.position : Int) := by
        obtain ⟨_, hle, hunseen⟩ := hf.held hr
        rw [History.unseen] at hunseen
        rw [hsent, History.unseen, htally, hfound, hf.receiverChannel hr]
        by_cases hsame : r.channel = channel
        · rw [hsame] at hunseen hle
          simp only [hsame, if_true, Option.isSome_some, and_self]
          omega
        · have hother : ¬ (channel = r.channel) := fun heq => hsame heq.symm
          simp only [hsame, if_false, Option.isSome_some, true_and, Option.some.injEq, hother]
          exact ⟨hle, hunseen⟩
      exact {
        channels := (List.length_set ..).trans hf.channels
        senderNames := hf.senderNames
        receiverNames := hf.receiverNames
        senders := hf.senders
        receivers := hf.receivers
        sender_lt := fun name other hother => by
          rw [List.length_set]
          exact hf.sender_lt name other hother
        receiver_lt := fun name other hother => by
          rw [List.length_set]
          exact hf.receiver_lt name other hother
        position_le := fun name r hr => (hreceiver name r hr).1
        unseen_eq := fun name r hr => (hreceiver name r hr).2 }

/-- Every action keeps a hub as its history tells. -/
theorem act (hf : Follows hub h) (action : Action) :
    Follows (hub.act action).1 ((action, (hub.act action).2) :: h) := by
  cases action with
  | create sender => exact hf.create sender
  | clone sender source => exact hf.clone sender source
  | subscribe receiver source => exact hf.subscribe receiver source
  | trigger sender => exact hf.trigger sender
  | receive receiver => exact hf.receive receiver
  | dropSender sender => exact hf.dropSender sender
  | dropReceiver receiver => exact hf.dropReceiver receiver

end Follows

end Handoff.Shutdown
