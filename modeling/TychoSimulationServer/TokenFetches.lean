import TychoSimulationServer.TokenStore

/-!
# Token fetches are single-flight

Fetches of one address are shared as long as the in-flight map tells the truth: its entry belongs
to the one owner of the address, and an owner that ends takes its own entry away. Two things can
make it lie.

* An owner is dropped and several calls find its channel closed. Each inserts a receiver of its
  own over the others, and each removes whatever is there when it ends.
* An owner has sent its result and has not removed its entry yet, or was dropped before it could.
  A call that begins then takes the old answer from the map.

`Orderly` is a condition on the steps that excludes these two. The owner invariant (`owner` and `unique` in `Coherent`)
rests on the first part of it, the origin of what a call returns on the second.
-/

namespace TychoSimulationServer

namespace TokenStore

variable {Dto : Type} {lookup : TokenLookup Dto} {s s' : TokenStore}

/-! ## What is promised

A result that a call returns has to be justified: by the cache, or by a fetch for its address that
was under way while the call was. Single flight is that no two fetches for one address are under
way. -/

/-- The fetch of the channel was in progress at the instant. -/
def FetchedAt (channel : FetchChannel) (instant : Nat) : Prop :=
  ∃ started ended, channel.started = some started ∧ channel.ended = some ended ∧
    started ≤ instant ∧ instant ≤ ended

/-- The result is a token that is in the cache, or the result of a fetch that was in progress at
some instant from `since` to `time`. -/
def Justified (s : TokenStore) (address : Bytes) (since time : Nat) (result : FetchResult) :
    Prop :=
  (∃ token, result = .ok (some token) ∧ s.tokens address = some token) ∨
  ∃ id channel instant, s.channels id = some channel ∧ channel.address = address ∧
    channel.value = some result ∧ FetchedAt channel instant ∧ since ≤ instant ∧ instant ≤ time

/-- Fetches are shared. -/
structure SingleFlight (lookup : TokenLookup Dto) (s : TokenStore) : Prop where
  /-- at most one fetch of an address is outstanding -/
  outstanding_unique : ∀ c d call other id id', s.calls c = some call →
    s.calls d = some other → call.address = other.address →
    call.stage.outstanding = some id → other.stage.outstanding = some id' → c = d
  /-- what a call returned comes from the cache or from a fetch during the call -/
  returned : ∀ c call result time, s.calls c = some call →
    call.stage = .returned result time → s.Justified call.address call.since time result
  /-- the map holds the receiver of an owner that is fetching -/
  inflight : ∀ c call id, s.calls c = some call → call.stage.outstanding = some id →
    s.inflight call.address = some id
  /-- a call that arrives then waits on it -/
  joins : ∀ c d call other id, s.calls c = some call → call.stage.outstanding = some id →
    other.address = call.address → other.stage = .locking →
    s.advance lookup d other .lockInflight = some (s.setStage d other (.waiting id))

/-- The condition on a step. A call whose channel closed inserts its receiver only where no call
for the address owns a channel; a call that takes a receiver from the map began before the fetch
behind it ended, unless that fetch found a token. -/
def Orderly (s : TokenStore) : TokenAction Dto → Prop
  | .advance caller .takeOver => ∀ call d other, s.calls caller = some call →
      s.calls d = some other → other.address = call.address → other.stage.owned = none
  | .advance caller .lockInflight => ∀ call id channel ended, s.calls caller = some call →
      s.inflight call.address = some id → s.channels id = some channel →
      channel.ended = some ended → (∀ token, channel.value ≠ some (.ok (some token))) →
      call.since ≤ ended
  | _ => True

/-! ## The invariant

What is true of each channel, of each call by its stage, and of the map of channels. -/

/-- What holds of a channel. -/
structure ChannelOk (s : TokenStore) (channel : FetchChannel) : Prop where
  ended : ∀ e, channel.ended = some e → channel.value ≠ none ∧ e < s.now ∧
    ∃ b, channel.started = some b ∧ b ≤ e
  started : ∀ b, channel.started = some b → b < s.now
  /-- a value without a fetch was found in the cache -/
  origin : ∀ result, channel.value = some result → channel.ended = none →
    ∃ token, result = .ok (some token) ∧ s.tokens channel.address = some token
  cached : ∀ token, channel.value = some (.ok (some token)) → s.tokens channel.address ≠ none

/-- Every fetch that found a token for the address ended after the call began. -/
def Missed (s : TokenStore) (call : EnsureCall) : Prop :=
  ∀ id channel token ended, s.channels id = some channel → channel.address = call.address →
    channel.value = some (.ok (some token)) → channel.ended = some ended → call.since ≤ ended

/-- What holds of a call in its stage. -/
def CallOk (s : TokenStore) (call : EnsureCall) : Prop :=
  match call.stage with
  | .reading | .cancelled => True
  | .locking | .takingOver => s.Missed call
  | .waiting id => s.Missed call ∧ ∃ channel, s.channels id = some channel ∧
      channel.address = call.address ∧ ∀ e, channel.ended = some e → call.since ≤ e
  | .queued id | .checking id => ∃ channel, s.channels id = some channel ∧
      channel.address = call.address ∧ channel.value = none ∧ channel.started = none ∧
      channel.ended = none
  | .fetching id => ∃ channel started, s.channels id = some channel ∧
      channel.address = call.address ∧ channel.value = none ∧ channel.started = some started ∧
      channel.ended = none
  | .storing id token => token.address = call.address ∧ ∃ channel started,
      s.channels id = some channel ∧ channel.address = call.address ∧ channel.value = none ∧
      channel.started = some started ∧ channel.ended = none
  | .removing _ result => s.Justified call.address call.since s.now result
  | .returned result time => s.Justified call.address call.since time result

/-- The invariant of orderly runs. -/
structure Coherent (s : TokenStore) : Prop where
  fresh : ∀ id, s.nextChannel ≤ id → s.channels id = none
  channel : ∀ id channel, s.channels id = some channel → s.ChannelOk channel
  entry : ∀ address id, s.inflight address = some id →
    ∃ channel, s.channels id = some channel ∧ channel.address = address
  since : ∀ c call, s.calls c = some call → call.since < s.now
  call : ∀ c call, s.calls c = some call → s.CallOk call
  /-- the map holds the receiver of every owner -/
  owner : ∀ c call id, s.calls c = some call → call.stage.owned = some id →
    s.inflight call.address = some id
  /-- a channel has one owner -/
  unique : ∀ c d call other id, s.calls c = some call → s.calls d = some other →
    call.stage.owned = some id → other.stage.owned = some id → c = d

/-- **The invariant is enough** for single flight. -/
theorem Coherent.singleFlight (hs : s.Coherent) : s.SingleFlight lookup where
  outstanding_unique := by
    intro c d call other id id' hc hd haddress hid hid'
    have hmine := hs.owner c call id hc (CallStage.owned_of_outstanding hid)
    have hother := hs.owner d other id' hd (CallStage.owned_of_outstanding hid')
    -- both entries are the one entry of the address
    rw [haddress, hother] at hmine
    cases hmine
    exact hs.unique c d call other id hc hd (CallStage.owned_of_outstanding hid)
      (CallStage.owned_of_outstanding hid')
  returned := by
    intro c call result time hc hstage
    have hok := hs.call c call hc
    rw [CallOk, hstage] at hok
    exact hok
  inflight := by
    intro c call id hc hid
    exact hs.owner c call id hc (CallStage.owned_of_outstanding hid)
  joins := by
    intro c d call other id hc hid haddress hstage
    have hentry := hs.owner c call id hc (CallStage.owned_of_outstanding hid)
    rw [← haddress] at hentry
    simp only [advance, hstage, if_true, hentry]

/-- A new store has no calls and no channels. -/
theorem coherent_withSource (initial : Bytes → Option TokenMetadata) :
    (withSource initial).Coherent where
  fresh _ _ := rfl
  channel _ _ h := by cases h
  entry _ _ h := by cases h
  since _ _ h := by cases h
  call _ _ h := by cases h
  owner _ _ _ h := by cases h
  unique _ _ _ _ _ h := by cases h

/-! ## What the other calls see of a step

A step of one call writes tokens, channels and the map of channels. The others only need to know
that channels keep their address and value, and tokens stay. -/

/-- A step by a call that owns `own`: the cache grows, the channels of others stay, a channel with
a value keeps it, and a fetch that ends, ends now. -/
structure Evolves (s s' : TokenStore) (own : Option Nat) : Prop where
  now : s'.now = s.now + 1
  tokens : ∀ address token, s.tokens address = some token → s'.tokens address = some token
  others : ∀ id channel, s.channels id = some channel → own ≠ some id →
    s'.channels id = some channel
  own : ∀ id channel, s.channels id = some channel → own = some id →
    ∃ channel', s'.channels id = some channel' ∧ channel'.address = channel.address ∧
      (channel.value ≠ none → channel'.value = channel.value ∧
        channel'.started = channel.started ∧ channel'.ended = channel.ended) ∧
      (channel.value = none → ∀ e, channel'.ended = some e → e = s.now)
  new : ∀ id channel, s.channels id = none → s'.channels id = some channel →
    channel.value = none ∧ channel.started = none ∧ channel.ended = none

namespace Evolves

variable {own : Option Nat}

/-- A channel stays, with its address, and with its value once it has one. -/
theorem channel_after (h : Evolves s s' own) {id : Nat} {channel : FetchChannel}
    (hid : s.channels id = some channel) :
    ∃ channel', s'.channels id = some channel' ∧ channel'.address = channel.address ∧
      (channel.value ≠ none → channel'.value = channel.value ∧
        channel'.started = channel.started ∧ channel'.ended = channel.ended) ∧
      (∀ e, channel'.ended = some e → channel.ended = some e ∨ e = s.now) := by
  by_cases hown : own = some id
  · obtain ⟨channel', hid', haddress, hsent, hunsent⟩ := h.own id channel hid hown
    refine ⟨channel', hid', haddress, hsent, fun e he => ?_⟩
    by_cases hvalue : channel.value = none
    · exact .inr (hunsent hvalue e he)
    · obtain ⟨-, -, hended⟩ := hsent hvalue
      exact .inl (hended ▸ he)
  · exact ⟨channel, h.others id channel hid hown, rfl, fun _ => ⟨rfl, rfl, rfl⟩,
      fun e he => .inl he⟩

theorem justified (h : Evolves s s' own) {address : Bytes} {since time time' : Nat}
    {result : FetchResult} (hs : s.Justified address since time result) (htime : time ≤ time') :
    s'.Justified address since time' result := by
  obtain ⟨token, hresult, htoken⟩ | ⟨id, channel, instant, hid, haddress, hvalue, hfetched,
    hsince, hle⟩ := hs
  · exact .inl ⟨token, hresult, h.tokens _ _ htoken⟩
  · obtain ⟨channel', hid', haddress', hsent, -⟩ := h.channel_after hid
    obtain ⟨hvalue', hstarted', hended'⟩ := hsent (by rw [hvalue]; simp)
    obtain ⟨started, ended, hstarted, hended, hbounds⟩ := hfetched
    exact .inr ⟨id, channel', instant, hid', haddress'.trans haddress, hvalue'.trans hvalue,
      ⟨started, ended, hstarted'.trans hstarted, hended'.trans hended, hbounds⟩, hsince,
      hle.trans htime⟩

/-- A fetch that was not there before the step ends after every call began. -/
theorem missed (h : Evolves s s' own) {call : EnsureCall} (hmissed : s.Missed call)
    (hsince : call.since ≤ s.now) : s'.Missed call := by
  intro id channel' token ended hid' haddress' hvalue' hended'
  cases hid : s.channels id with
  | none =>
    have hblank := h.new id channel' hid hid'
    rw [hblank.1] at hvalue'
    cases hvalue'
  | some channel =>
    obtain ⟨_, hid'', haddress, hsent, hends⟩ := h.channel_after hid
    rw [hid'] at hid''
    cases hid''
    obtain hended | rfl := hends ended hended'
    · by_cases hvalue : channel.value = none
      · by_cases hown : own = some id
        · obtain ⟨_, hid'', -, -, hunsent⟩ := h.own id channel hid hown
          rw [hid'] at hid''
          cases hid''
          rw [hunsent hvalue ended hended']
          exact hsince
        · rw [h.others id channel hid hown] at hid'
          cases hid'
          exact hmissed id channel' token ended hid haddress' hvalue' hended
      · obtain ⟨hsame, -, -⟩ := hsent hvalue
        exact hmissed id channel token ended hid (haddress ▸ haddress') (hsame ▸ hvalue') hended
    · exact hsince

/-- A call that waits for a channel finds it afterwards. -/
theorem waiting (h : Evolves s s' own) {call : EnsureCall} {id : Nat}
    (hwaiting : ∃ channel, s.channels id = some channel ∧ channel.address = call.address ∧
      ∀ e, channel.ended = some e → call.since ≤ e) (hsince : call.since ≤ s.now) :
    ∃ channel, s'.channels id = some channel ∧ channel.address = call.address ∧
      ∀ e, channel.ended = some e → call.since ≤ e := by
  obtain ⟨channel, hid, haddress, hended⟩ := hwaiting
  obtain ⟨channel', hid', haddress', -, hends⟩ := h.channel_after hid
  refine ⟨channel', hid', haddress'.trans haddress, fun e he => ?_⟩
  obtain hbefore | rfl := hends e he
  · exact hended e hbefore
  · exact hsince

/-- A call other than the one that steps is as well off as before. -/
theorem callOk (h : Evolves s s' own) {call : EnsureCall} (hok : s.CallOk call)
    (hsince : call.since ≤ s.now) (hown : ∀ id, call.stage.owned = some id → own ≠ some id) :
    s'.CallOk call := by
  have hkeep : ∀ id channel, call.stage.owned = some id → s.channels id = some channel →
      s'.channels id = some channel := fun id channel hid hchannel =>
    h.others id channel hchannel (hown id hid)
  rw [CallOk] at hok ⊢
  cases hstage : call.stage with
  | reading | cancelled => trivial
  | locking | takingOver =>
    rw [hstage] at hok
    exact h.missed hok hsince
  | waiting id =>
    rw [hstage] at hok
    exact ⟨h.missed hok.1 hsince, h.waiting hok.2 hsince⟩
  | queued id | checking id =>
    rw [hstage] at hok
    obtain ⟨channel, hid, hrest⟩ := hok
    exact ⟨channel, hkeep id channel (by rw [hstage]; rfl) hid, hrest⟩
  | fetching id =>
    rw [hstage] at hok
    obtain ⟨channel, started, hid, hrest⟩ := hok
    exact ⟨channel, started, hkeep id channel (by rw [hstage]; rfl) hid, hrest⟩
  | storing id token =>
    rw [hstage] at hok
    obtain ⟨htoken, channel, started, hid, hrest⟩ := hok
    exact ⟨htoken, channel, started, hkeep id channel (by rw [hstage]; rfl) hid, hrest⟩
  | removing id result =>
    rw [hstage] at hok
    exact h.justified hok (by rw [h.now]; omega)
  | returned result time =>
    rw [hstage] at hok
    exact h.justified hok le_rfl

theorem channelOk (h : Evolves s s' own) {channel : FetchChannel} (hok : s.ChannelOk channel) :
    s'.ChannelOk channel where
  ended := by
    intro e he
    obtain ⟨hvalue, hlt, hstarted⟩ := hok.ended e he
    exact ⟨hvalue, by rw [h.now]; omega, hstarted⟩
  started := by
    intro b hb
    have hlt := hok.started b hb
    rw [h.now]
    omega
  origin := by
    intro result hvalue hended
    obtain ⟨token, hresult, htoken⟩ := hok.origin result hvalue hended
    exact ⟨token, hresult, h.tokens _ _ htoken⟩
  cached := by
    intro token hvalue hnone
    obtain ⟨cachedToken, hcached⟩ := Option.ne_none_iff_exists'.mp (hok.cached token hvalue)
    rw [h.tokens _ _ hcached] at hnone
    cases hnone

end Evolves

/-! ## One step

Each action of a call is one of these lemmas; the frame of the other calls is shared. -/

/-- A call after a step is the one that made it, or as before. -/
theorem calls_update {calls : Nat → Option EnsureCall} {c d : Nat} {call other : EnsureCall}
    (h : Function.update calls c (some call) d = some other) :
    d = c ∧ other = call ∨ d ≠ c ∧ calls d = some other := by
  by_cases hd : d = c
  · subst hd
    rw [Function.update_self] at h
    cases h
    exact .inl ⟨rfl, rfl⟩
  · rw [Function.update_of_ne hd] at h
    exact .inr ⟨hd, h⟩

/-- How a step that makes no channel changes one call: the call keeps its channel or gives it up,
and takes an entry out of the map only when it gives up the channel. -/
structure StageStep (s s' : TokenStore) (c : Nat) (call : EnsureCall) (stage : CallStage) : Prop where
  before : s.calls c = some call
  calls : s'.calls = Function.update s.calls c (some { call with stage })
  inflight : s'.inflight = s.inflight ∨ call.stage.owned ≠ none ∧ stage.owned = none ∧
    s'.inflight = Function.update s.inflight call.address none
  owned : stage.owned = call.stage.owned ∨ stage.owned = none

namespace StageStep

variable {c : Nat} {call : EnsureCall} {stage : CallStage}

/-- Nothing is put into the map. -/
theorem entry_before (h : StageStep s s' c call stage) {address : Bytes} {id : Nat}
    (hid : s'.inflight address = some id) : s.inflight address = some id := by
  obtain hsame | ⟨-, -, hremoved⟩ := h.inflight
  · rwa [hsame] at hid
  · rw [hremoved] at hid
    by_cases haddress : address = call.address
    · subst haddress
      rw [Function.update_self] at hid
      cases hid
    · rwa [Function.update_of_ne haddress] at hid

/-- A channel the call owns afterwards it owned before. -/
theorem owned_before (h : StageStep s s' c call stage) {id : Nat} (hid : stage.owned = some id) :
    call.stage.owned = some id := by
  obtain hkept | hnone := h.owned
  · exact hkept ▸ hid
  · rw [hnone] at hid
    cases hid

/-- An owner that goes on finds its own entry in the map. -/
theorem keeps_own (h : StageStep s s' c call stage) (hs : s.Coherent) {id : Nat}
    (hid : stage.owned = some id) : s'.inflight call.address = some id := by
  obtain hsame | ⟨-, hnone, -⟩ := h.inflight
  · rw [hsame]
    exact hs.owner c call id h.before (h.owned_before hid)
  · rw [hnone] at hid
    cases hid

/-- The entries of the other owners stay: two owners of one address would own one channel. -/
theorem keeps_others (h : StageStep s s' c call stage) (hs : s.Coherent) {d id : Nat}
    {other : EnsureCall} (hne : d ≠ c) (hd : s.calls d = some other)
    (hid : other.stage.owned = some id) : s'.inflight other.address = some id := by
  have hother := hs.owner d other id hd hid
  obtain hsame | ⟨howns, -, hremoved⟩ := h.inflight
  · rwa [hsame]
  · obtain ⟨mine, hmine⟩ := Option.ne_none_iff_exists'.mp howns
    have hentry := hs.owner c call mine h.before hmine
    have haddress : other.address ≠ call.address := by
      intro heq
      rw [heq, hentry] at hother
      cases hother
      exact hne (hs.unique d c other call id hd h.before hid hmine)
    rwa [hremoved, Function.update_of_ne haddress]

/-- No other call owns a channel that the call goes on to own. -/
theorem not_shared (h : StageStep s s' c call stage) (hs : s.Coherent) {d id : Nat}
    {other : EnsureCall} (hne : d ≠ c) (hd : s.calls d = some other)
    (hid : other.stage.owned = some id) : stage.owned ≠ some id := by
  intro hstage
  exact hne (hs.unique d c other call id hd h.before hid (h.owned_before hstage))

end StageStep

namespace Coherent

/-- A step of one call that makes no channel. -/
theorem of_call (hs : s.Coherent) {c : Nat} {call : EnsureCall} {stage : CallStage}
    {own : Option Nat} (hstep : StageStep s s' c call stage) (hev : Evolves s s' own)
    (hown : ∀ id, own = some id → call.stage.owned = some id)
    (hnext : s'.nextChannel = s.nextChannel)
    (hfresh : ∀ id, s.channels id = none → s'.channels id = none)
    (hchannel : ∀ id channel, own = some id → s'.channels id = some channel →
      s'.ChannelOk channel)
    (hcall : s'.CallOk { call with stage }) : s'.Coherent where
  fresh := by
    intro id hid
    rw [hnext] at hid
    exact hfresh id (hs.fresh id hid)
  channel := by
    intro id channel hid
    by_cases hmine : own = some id
    · exact hchannel id channel hmine hid
    · -- a channel of another call is what it was
      cases hbefore : s.channels id with
      | none =>
        rw [hfresh id hbefore] at hid
        cases hid
      | some before =>
        rw [hev.others id before hbefore hmine] at hid
        cases hid
        exact hev.channelOk (hs.channel id channel hbefore)
  entry := by
    intro address id hid
    obtain ⟨channel, hchannel, haddress⟩ := hs.entry address id (hstep.entry_before hid)
    obtain ⟨channel', hid', haddress', -⟩ := hev.channel_after hchannel
    exact ⟨channel', hid', haddress'.trans haddress⟩
  since := by
    intro d other hd
    rw [hstep.calls] at hd
    rw [hev.now]
    obtain ⟨rfl, rfl⟩ | ⟨-, hd⟩ := calls_update hd
    · exact (hs.since d call hstep.before).trans (Nat.lt_succ_self _)
    · exact (hs.since d other hd).trans (Nat.lt_succ_self _)
  call := by
    intro d other hd
    rw [hstep.calls] at hd
    obtain ⟨rfl, rfl⟩ | ⟨hne, hd⟩ := calls_update hd
    · exact hcall
    · apply hev.callOk (hs.call d other hd) (hs.since d other hd).le
      intro id hid hmine
      exact hne (hs.unique d c other call id hd hstep.before hid (hown id hmine))
  owner := by
    intro d other id hd hid
    rw [hstep.calls] at hd
    obtain ⟨rfl, rfl⟩ | ⟨hne, hd⟩ := calls_update hd
    · exact hstep.keeps_own hs hid
    · exact hstep.keeps_others hs hne hd hid
  unique := by
    intro d e other another id hd he hid hid'
    rw [hstep.calls] at hd he
    obtain ⟨rfl, rfl⟩ | ⟨hdne, hd'⟩ := calls_update hd
    · obtain ⟨rfl, rfl⟩ | ⟨hene, he'⟩ := calls_update he
      · rfl
      · exact absurd hid (hstep.not_shared hs hene he' hid')
    · obtain ⟨rfl, rfl⟩ | ⟨hene, he'⟩ := calls_update he
      · exact absurd hid' (hstep.not_shared hs hdne hd' hid)
      · exact hs.unique d e other another id hd' he' hid hid'

/-- A call that makes a channel and puts its receiver into the map, where no call for the address
owns one. -/
theorem insertReceiver (hs : s.Coherent) {c : Nat} {call : EnsureCall}
    (hc : s.calls c = some call)
    (hfree : ∀ d other, s.calls d = some other → other.address = call.address →
      other.stage.owned = none) :
    Coherent { s.insertReceiver c call with now := s.now + 1 } := by
  -- the channel gets a number that no channel had before
  have hnew : s.channels s.nextChannel = none := hs.fresh _ le_rfl
  have hother : ∀ id, s.channels id ≠ none → id ≠ s.nextChannel := by
    intro id hid heq
    exact hid (heq ▸ hnew)
  have hev : Evolves s { s.insertReceiver c call with now := s.now + 1 } none := by
    refine ⟨rfl, fun _ _ h => h, fun id channel hid _ => ?_, (fun _ _ _ h => nomatch h),
      fun id channel hid hid' => ?_⟩
    · exact (Function.update_of_ne (hother id (by rw [hid]; simp)) ..).trans hid
    · have hid' : Function.update s.channels s.nextChannel _ id = some channel := hid'
      by_cases heq : id = s.nextChannel
      · subst heq
        rw [Function.update_self] at hid'
        cases hid'
        exact ⟨rfl, rfl, rfl⟩
      · rw [Function.update_of_ne heq, hid] at hid'
        cases hid'
  have hown : ∀ d other id, s.calls d = some other → other.stage.owned = some id →
      id ≠ s.nextChannel := by
    intro d other id hd hid
    obtain ⟨channel, hchannel, -⟩ := hs.entry _ id (hs.owner d other id hd hid)
    exact hother id (by rw [hchannel]; simp)
  refine ⟨fun id hid => ?_, fun id channel hid => ?_, fun address id hid => ?_,
    fun d other hd => ?_, fun d other hd => ?_, fun d other id hd hid => ?_,
    fun d e other another id hd he hid hid' => ?_⟩
  · have hid : s.nextChannel + 1 ≤ id := hid
    exact (Function.update_of_ne (by omega) ..).trans (hs.fresh id (by omega))
  · cases hbefore : s.channels id with
    | none =>
      obtain ⟨hvalue, hstarted, hended⟩ := hev.new id channel hbefore hid
      refine ⟨fun e he => ?_, fun b hb => ?_, fun result hresult => ?_, fun token htoken => ?_⟩
      · rw [hended] at he
        cases he
      · rw [hstarted] at hb
        cases hb
      · rw [hvalue] at hresult
        cases hresult
      · rw [hvalue] at htoken
        cases htoken
    | some before =>
      rw [hev.others id before hbefore (by simp)] at hid
      cases hid
      exact hev.channelOk (hs.channel id channel hbefore)
  · -- the entry of this address is the new channel, the others are as before
    have hid : Function.update s.inflight call.address (some s.nextChannel) address = some id := hid
    by_cases haddress : address = call.address
    · subst haddress
      rw [Function.update_self] at hid
      cases hid
      exact ⟨_, Function.update_self .., rfl⟩
    · rw [Function.update_of_ne haddress] at hid
      obtain ⟨channel, hchannel, hsame⟩ := hs.entry address id hid
      exact ⟨channel, hev.others id channel hchannel (by simp), hsame⟩
  · obtain ⟨rfl, rfl⟩ | ⟨-, hd⟩ := calls_update hd
    · exact (hs.since d call hc).trans (Nat.lt_succ_self _)
    · exact (hs.since d other hd).trans (Nat.lt_succ_self _)
  · obtain ⟨rfl, rfl⟩ | ⟨-, hd⟩ := calls_update hd
    · exact ⟨_, Function.update_self .., rfl, rfl, rfl, rfl⟩
    · exact hev.callOk (hs.call d other hd) (hs.since d other hd).le fun _ _ h => by cases h
  · obtain ⟨rfl, rfl⟩ | ⟨-, hd⟩ := calls_update hd
    · cases hid
      exact Function.update_self ..
    · -- the other owners are of other addresses
      have haddress : other.address ≠ call.address := by
        intro heq
        rw [hfree d other hd heq] at hid
        cases hid
      exact (Function.update_of_ne haddress ..).trans (hs.owner d other id hd hid)
  · obtain ⟨rfl, rfl⟩ | ⟨-, hd'⟩ := calls_update hd
    · cases hid
      obtain ⟨rfl, rfl⟩ | ⟨-, he'⟩ := calls_update he
      · rfl
      · exact absurd rfl (hown e another _ he' hid')
    · obtain ⟨rfl, rfl⟩ | ⟨-, he'⟩ := calls_update he
      · cases hid'
        exact absurd rfl (hown d other _ hd' hid)
      · exact hs.unique d e other another id hd' he' hid hid'

/-- A step that changes the stage of a call and at most one entry of the map. -/
theorem of_stage (hs : s.Coherent) {c : Nat} {call : EnsureCall} {stage : CallStage}
    (hc : s.calls c = some call)
    (hcalls : s'.calls = Function.update s.calls c (some { call with stage }))
    (hchannels : s'.channels = s.channels) (hnext : s'.nextChannel = s.nextChannel)
    (htokens : s'.tokens = s.tokens) (hnow : s'.now = s.now + 1)
    (hinflight : s'.inflight = s.inflight ∨ call.stage.owned ≠ none ∧ stage.owned = none ∧
      s'.inflight = Function.update s.inflight call.address none)
    (howned : stage.owned = call.stage.owned ∨ stage.owned = none)
    (hcall : Evolves s s' none → s'.CallOk { call with stage }) : s'.Coherent := by
  have hev : Evolves s s' none := by
    refine ⟨hnow, fun address token h => htokens ▸ h, fun id channel h _ => hchannels ▸ h,
      (fun _ _ _ h => nomatch h), fun id channel hnone hsome => ?_⟩
    rw [hchannels, hnone] at hsome
    cases hsome
  exact hs.of_call ⟨hc, hcalls, hinflight, howned⟩ hev (fun _ h => nomatch h) hnext
    (fun id h => hchannels ▸ h) (fun _ _ h => nomatch h) (hcall hev)

/-- A step of an owner that changes its channel. -/
theorem of_owner (hs : s.Coherent) {c : Nat} {call : EnsureCall} {stage : CallStage} {id : Nat}
    {f : FetchChannel → FetchChannel} (hc : s.calls c = some call)
    (hid : call.stage.owned = some id)
    (hcalls : s'.calls = Function.update s.calls c (some { call with stage }))
    (hchannels : s'.channels = Function.update s.channels id ((s.channels id).map f))
    (hnext : s'.nextChannel = s.nextChannel) (hnow : s'.now = s.now + 1)
    (htokens : ∀ address token, s.tokens address = some token →
      s'.tokens address = some token)
    (hinflight : s'.inflight = s.inflight)
    (howned : stage.owned = some id ∨ stage.owned = none)
    (haddress : ∀ channel, s.channels id = some channel →
      (f channel).address = channel.address)
    (hsent : ∀ channel, s.channels id = some channel → channel.value ≠ none →
      (f channel).value = channel.value ∧ (f channel).started = channel.started ∧
        (f channel).ended = channel.ended)
    (hunsent : ∀ channel, s.channels id = some channel → channel.value = none →
      ∀ e, (f channel).ended = some e → e = s.now)
    (hchannel : ∀ channel, s.channels id = some channel → s'.ChannelOk (f channel))
    (hcall : Evolves s s' (some id) → s'.CallOk { call with stage }) : s'.Coherent := by
  -- only the channel of the owner changes
  have hsame : ∀ other, other ≠ id → s'.channels other = s.channels other := by
    intro other hne
    rw [hchannels, Function.update_of_ne hne]
  have hself : ∀ channel, s.channels id = some channel → s'.channels id = some (f channel) := by
    intro channel hbefore
    rw [hchannels, Function.update_self, hbefore]
    rfl
  have hnone : ∀ other, s.channels other = none → s'.channels other = none := by
    intro other hbefore
    by_cases heq : other = id
    · rw [heq] at hbefore ⊢
      rw [hchannels, Function.update_self, hbefore]
      rfl
    · rwa [hsame other heq]
  have hev : Evolves s s' (some id) := by
    refine ⟨hnow, htokens, fun other channel hbefore hne => ?_, fun other channel hbefore heq => ?_,
      fun other channel hbefore hafter => ?_⟩
    · rw [hsame other fun heq => hne (heq ▸ rfl)]
      exact hbefore
    · cases heq
      exact ⟨f channel, hself channel hbefore, haddress channel hbefore, hsent channel hbefore,
        hunsent channel hbefore⟩
    · rw [hnone other hbefore] at hafter
      cases hafter
  have hstep : StageStep s s' c call stage :=
    ⟨hc, hcalls, .inl hinflight, howned.imp (fun h => h.trans hid.symm) fun h => h⟩
  refine hs.of_call hstep hev (fun other h => ?_) hnext hnone (fun other channel h hafter => ?_)
    (hcall hev)
  · cases h
    exact hid
  · cases h
    cases hbefore : s.channels id with
    | none =>
      rw [hnone id hbefore] at hafter
      cases hafter
    | some before =>
      rw [hself before hbefore] at hafter
      cases hafter
      exact hchannel before hbefore

/-- An owner sends: a token it found in the cache, or the result of the fetch that ends now. -/
theorem of_send (hs : s.Coherent) (after : FetchChannel) {c : Nat} {call : EnsureCall} {id : Nat}
    {result : FetchResult} {channel : FetchChannel} (hc : s.calls c = some call)
    (hid : call.stage.owned = some id) (hchannel : s.channels id = some channel)
    (haddress : channel.address = call.address) (hvalue : channel.value = none)
    (hcalls : s'.calls = Function.update s.calls c
      (some { call with stage := .removing id result }))
    (hchannels : s'.channels = Function.update s.channels id (some after))
    (haddress' : after.address = channel.address) (hvalue' : after.value = some result)
    (hnext : s'.nextChannel = s.nextChannel) (hnow : s'.now = s.now + 1)
    (htokens : ∀ address token, s.tokens address = some token →
      s'.tokens address = some token)
    (hinflight : s'.inflight = s.inflight)
    (horigin : after.started = none ∧ after.ended = none ∧
        (∃ token, result = .ok (some token) ∧ s'.tokens call.address = some token) ∨
      ∃ b, after.started = some b ∧ b ≤ s.now ∧ after.ended = some s.now ∧
        ∀ token, result = .ok (some token) → s'.tokens call.address ≠ none) :
    s'.Coherent := by
  have hsince := hs.since c call hc
  refine hs.of_owner (f := fun _ => after) hc hid hcalls (by rw [hchannels, hchannel]; rfl) hnext
    hnow htokens hinflight (.inl rfl) (fun before h => ?_) (fun before h hsome => ?_)
    (fun before h _ e he => ?_) (fun before h => ?_) (fun _ => ?_)
  · rw [hchannel] at h
    cases h
    exact haddress'
  · rw [hchannel] at h
    cases h
    exact absurd hvalue hsome
  · -- a result out of the cache has no fetch, any other fetch has ended now
    obtain ⟨-, hnone, -⟩ | ⟨b, -, -, hended, -⟩ := horigin
    · have he : after.ended = some e := he
      rw [hnone] at he
      cases he
    · exact (Option.some.inj (hended.symm.trans he)).symm
  · refine ⟨fun e he => ?_, fun b hb => ?_, fun r hr hended => ?_, fun token htoken => ?_⟩
    · obtain ⟨-, hnone, -⟩ | ⟨b, hstarted, hle, hended, -⟩ := horigin
      · rw [hnone] at he
        cases he
      · rw [hended] at he
        cases he
        exact ⟨by rw [hvalue']; simp, by rw [hnow]; omega, b, hstarted, hle⟩
    · obtain ⟨hnone, -, -⟩ | ⟨started, hstarted, hle, -, -⟩ := horigin
      · rw [hnone] at hb
        cases hb
      · rw [hstarted] at hb
        cases hb
        rw [hnow]
        omega
    · rw [hvalue'] at hr
      cases hr
      obtain ⟨-, -, hcached⟩ | ⟨_, -, -, hsome, -⟩ := horigin
      · rw [haddress', haddress]
        exact hcached
      · rw [hsome] at hended
        cases hended
    · rw [hvalue'] at htoken
      cases htoken
      rw [haddress', haddress]
      obtain ⟨-, -, found, -, hcached⟩ | ⟨_, -, -, -, hstored⟩ := horigin
      · rw [hcached]
        simp
      · exact hstored token rfl
  · -- the owner's own result: the fetch ended after the call began
    obtain ⟨-, -, hcached⟩ | ⟨b, hstarted, hle, hended, -⟩ := horigin
    · exact .inl hcached
    · refine .inr ⟨id, after, s.now, ?_, haddress'.trans haddress, hvalue',
        ⟨b, s.now, hstarted, hended, hle, le_rfl⟩, hsince.le, ?_⟩
      · rw [hchannels, Function.update_self]
      · rw [hnow]
        omega

end Coherent

/-- A token that is cached is not overwritten. -/
theorem orInsert_of_some {tokens : Bytes → Option TokenMetadata} {token kept : TokenMetadata}
    {address : Bytes} (h : tokens address = some kept) :
    orInsert tokens token address = some kept := by
  rw [orInsert]
  by_cases heq : address = token.address
  · subst heq
    rw [Function.update_self, h]
    rfl
  · rwa [Function.update_of_ne heq]

theorem orInsert_self (tokens : Bytes → Option TokenMetadata) (token : TokenMetadata) :
    orInsert tokens token token.address ≠ none := by
  rw [orInsert, Function.update_self]
  simp

/-- `insert_batch` leaves what is cached. -/
theorem foldl_orInsert_of_some {batch : List TokenMetadata} {tokens : Bytes → Option TokenMetadata}
    {kept : TokenMetadata} {address : Bytes} (h : tokens address = some kept) :
    batch.foldl orInsert tokens address = some kept := by
  induction batch generalizing tokens with
  | nil => exact h
  | cons token batch ih => exact ih (orInsert_of_some h)

namespace Coherent

variable {c : Nat} {call : EnsureCall} {next : TokenStore}

theorem readCache (hs : s.Coherent) (hc : s.calls c = some call)
    (h : s.advance lookup c call .readCache = some next) :
    Coherent { next with now := s.now + 1 } := by
  simp only [advance] at h
  split at h
  · rename_i hstage
    have hnone : call.stage.owned = none := by rw [hstage]; rfl
    split at h
    · rename_i token htoken
      cases h
      refine hs.of_stage hc rfl rfl rfl rfl rfl (.inl rfl) (.inr rfl) fun _ => ?_
      exact .inl ⟨token, rfl, htoken⟩
    · rename_i hmiss
      cases h
      refine hs.of_stage hc rfl rfl rfl rfl rfl (.inl rfl) (.inr rfl) fun _ => ?_
      -- nothing is cached, so no fetch for the address has found a token yet
      intro id channel token ended hid haddress hvalue _
      have hcached := (hs.channel id channel hid).cached token hvalue
      rw [haddress] at hcached
      exact absurd hmiss hcached
  · cases h

/-- Joining a fetch that is under way, or opening a channel for one. -/
theorem lockInflight (hs : s.Coherent) (hc : s.calls c = some call)
    (hord : s.Orderly (.advance c .lockInflight : TokenAction Dto))
    (h : s.advance lookup c call .lockInflight = some next) :
    Coherent { next with now := s.now + 1 } := by
  simp only [advance] at h
  split at h
  · rename_i hstage
    split at h
    · rename_i id hentry
      cases h
      obtain ⟨channel, hid, haddress⟩ := hs.entry _ id hentry
      have hmissed : s.Missed call := by
        have hok := hs.call c call hc
        rw [CallOk, hstage] at hok
        exact hok
      refine hs.of_stage hc rfl rfl rfl rfl rfl (.inl rfl) (.inr rfl) fun _ => ?_
      refine ⟨hmissed, channel, hid, haddress, fun e he => ?_⟩
      by_cases hfound : ∃ token, channel.value = some (.ok (some token))
      · obtain ⟨token, hvalue⟩ := hfound
        exact hmissed id channel token e hid haddress hvalue he
      · exact hord call id channel e hc hentry hid he fun token hvalue => hfound ⟨token, hvalue⟩
    · rename_i hentry
      cases h
      refine hs.insertReceiver hc fun d other hd haddress => ?_
      cases howned : other.stage.owned with
      | none => rfl
      | some id =>
        have hother := hs.owner d other id hd howned
        rw [haddress, hentry] at hother
        cases hother
  · cases h

/-- A waiter that reads the value of its channel. -/
theorem changed (hs : s.Coherent) (hc : s.calls c = some call)
    (h : s.advance lookup c call .changed = some next) :
    Coherent { next with now := s.now + 1 } := by
  simp only [advance] at h
  split at h
  · rename_i id hstage
    have hok := hs.call c call hc
    rw [CallOk, hstage] at hok
    obtain ⟨hmissed, sent, hid, haddress, hended⟩ := hok
    split at h
    · rename_i hid'
      rw [hid] at hid'
      cases hid'
      split at h
      · rename_i result hvalue
        cases h
        refine hs.of_stage hc rfl rfl rfl rfl rfl (.inl rfl) (.inr rfl) fun hev => ?_
        refine hev.justified ?_ le_rfl
        -- the fetch ended after this call had missed the cache, or the token was cached
        have hchannel := hs.channel id sent hid
        cases hends : sent.ended with
        | none =>
          rw [← haddress]
          exact .inl (hchannel.origin result hvalue hends)
        | some e =>
          obtain ⟨-, hlt, b, hstarted, hle⟩ := hchannel.ended e hends
          exact .inr ⟨id, sent, e, hid, haddress, hvalue, ⟨b, e, hstarted, hends, hle, le_rfl⟩,
            hended e hends, hlt.le⟩
      · split at h
        · cases h
          exact hs.of_stage hc rfl rfl rfl rfl rfl (.inl rfl) (.inr rfl) fun _ => hmissed
        · cases h
    · cases h
  · cases h

/-- A waiter whose channel closed without a value fetches by itself. -/
theorem takeOver (hs : s.Coherent) (hc : s.calls c = some call)
    (hord : s.Orderly (.advance c .takeOver : TokenAction Dto))
    (h : s.advance lookup c call .takeOver = some next) :
    Coherent { next with now := s.now + 1 } := by
  simp only [advance] at h
  split at h
  · cases h
    exact hs.insertReceiver hc fun d other => hord call d other hc
  · cases h

theorem acquirePermit (hs : s.Coherent) (hc : s.calls c = some call)
    (h : s.advance lookup c call .acquirePermit = some next) :
    Coherent { next with now := s.now + 1 } := by
  simp only [advance] at h
  split at h
  · rename_i id hstage
    have hok := hs.call c call hc
    rw [CallOk, hstage] at hok
    split at h
    · cases h
      exact hs.of_stage hc rfl rfl rfl rfl rfl (.inl rfl) (.inl (by rw [hstage]; rfl)) fun _ => hok
    · cases h
  · cases h

/-- The owner looks into the cache again before it fetches. -/
theorem recheckCache (hs : s.Coherent) (hc : s.calls c = some call)
    (h : s.advance lookup c call .recheckCache = some next) :
    Coherent { next with now := s.now + 1 } := by
  simp only [advance] at h
  split at h
  · rename_i id hstage
    have howned : call.stage.owned = some id := by rw [hstage]; rfl
    have hok := hs.call c call hc
    rw [CallOk, hstage] at hok
    obtain ⟨mine, hid, haddress, hvalue, hstarted, hended⟩ := hok
    split at h
    · rename_i token htoken
      cases h
      refine hs.of_send ⟨some (.ok (some token)), true, mine.address, none, none⟩ hc howned hid
        haddress hvalue rfl ?_ rfl rfl rfl rfl (fun _ _ h => h) rfl
        (.inl ⟨rfl, rfl, token, rfl, htoken⟩)
      simp [sendResult, modifyChannel, setStage, hid, hstarted, hended]
    · -- no token in the cache: the owner fetches now, or has no source and answers so
      split at h
      · cases h
        refine hs.of_send ⟨some (.ok none), true, mine.address, some s.now, some s.now⟩ hc howned
          hid haddress hvalue rfl ?_ rfl rfl rfl rfl (fun _ _ h => h) rfl
          (.inr ⟨s.now, rfl, le_rfl, rfl, fun _ h => nomatch h⟩)
        simp [sendResult, noteEnd, noteStart, modifyChannel, setStage, hid]
      · cases h
        refine hs.of_owner (f := fun channel => { channel with started := some s.now }) hc howned rfl
          rfl rfl rfl (fun _ _ h => h) rfl (.inl rfl) (fun _ _ => rfl) (fun before h hsome => ?_)
          (fun before h _ e he => ?_) (fun before h => ?_) (fun _ => ?_)
        · rw [hid] at h
          cases h
          exact absurd hvalue hsome
        · rw [hid] at h
          cases h
          rw [hended] at he
          cases he
        · rw [hid] at h
          cases h
          have hchannel := hs.channel id mine hid
          refine ⟨fun e he => ?_, fun b hb => ?_, hchannel.origin, hchannel.cached⟩
          · rw [hended] at he
            cases he
          · cases hb
            exact Nat.lt_succ_self _
        · exact ⟨{ mine with started := some s.now }, s.now,
            by simp [noteStart, modifyChannel, setStage, hid], haddress, hvalue, rfl, hended⟩
  · cases h

/-- A fetch that brought no token is over at once. -/
theorem respond (hs : s.Coherent) (hc : s.calls c = some call) {reply : FetchReply Dto}
    (h : s.advance lookup c call (.respond reply) = some next) :
    Coherent { next with now := s.now + 1 } := by
  simp only [advance] at h
  split at h
  · rename_i id hstage
    have howned : call.stage.owned = some id := by rw [hstage]; rfl
    have hok := hs.call c call hc
    rw [CallOk, hstage] at hok
    obtain ⟨mine, started, hid, haddress, hvalue, hstarted, hended⟩ := hok
    have hbefore := (hs.channel id mine hid).started started hstarted
    split at h
    · rename_i token hresult
      cases h
      refine hs.of_stage hc rfl rfl rfl rfl rfl (.inl rfl) (.inl (by rw [hstage]; rfl)) fun _ => ?_
      exact ⟨lookup.fetchTokenResult_address hresult, mine, started, hid, haddress, hvalue,
        hstarted, hended⟩
    · rename_i hnone
      cases h
      refine hs.of_send ⟨some _, true, mine.address, mine.started, some s.now⟩ hc howned hid
        haddress hvalue rfl ?_ rfl rfl rfl rfl (fun _ _ h => h) rfl
        (.inr ⟨started, hstarted, hbefore.le, rfl, fun token h => absurd h (hnone token)⟩)
      simp [sendResult, noteEnd, modifyChannel, setStage, hid]
  · cases h

theorem storeToken (hs : s.Coherent) (hc : s.calls c = some call)
    (h : s.advance lookup c call .storeToken = some next) :
    Coherent { next with now := s.now + 1 } := by
  simp only [advance] at h
  split at h
  · rename_i id token hstage
    cases h
    have howned : call.stage.owned = some id := by rw [hstage]; rfl
    have hok := hs.call c call hc
    rw [CallOk, hstage] at hok
    obtain ⟨htoken, mine, started, hid, haddress, hvalue, hstarted, hended⟩ := hok
    have hbefore := (hs.channel id mine hid).started started hstarted
    refine hs.of_send ⟨some (.ok (some token)), true, mine.address, mine.started, some s.now⟩ hc
      howned hid haddress hvalue rfl ?_ rfl rfl rfl rfl (fun _ _ h => orInsert_of_some h) rfl
      (.inr ⟨started, hstarted, hbefore.le, rfl, fun _ _ => ?_⟩)
    · simp [sendResult, noteEnd, modifyChannel, setStage, hid]
    · rw [← htoken]
      exact orInsert_self s.tokens token
  · cases h

/-- The owner takes its channel out of the map and sends the result. -/
theorem removeInflight (hs : s.Coherent) (hc : s.calls c = some call)
    (h : s.advance lookup c call .removeInflight = some next) :
    Coherent { next with now := s.now + 1 } := by
  simp only [advance] at h
  split at h
  · rename_i id result hstage
    cases h
    have hok := hs.call c call hc
    rw [CallOk, hstage] at hok
    refine hs.of_stage hc rfl rfl rfl rfl rfl (.inr ⟨by rw [hstage]; simp [CallStage.owned], rfl,
      rfl⟩) (.inr rfl) fun hev => ?_
    exact hev.justified hok le_rfl
  · cases h

theorem cancel (hs : s.Coherent) (hc : s.calls c = some call)
    (h : s.advance lookup c call .cancel = some next) :
    Coherent { next with now := s.now + 1 } := by
  have hnext : next = s.dropCall c call := by
    simp only [advance] at h
    split at h <;> cases h
    rfl
  rw [hnext]
  cases howned : call.stage.owned with
  | none =>
    rw [dropCall, howned]
    exact hs.of_stage hc rfl rfl rfl rfl rfl (.inl rfl) (.inr rfl) fun _ => trivial
  | some id =>
    rw [dropCall, howned]
    refine hs.of_owner (f := fun channel => { channel with closed := true }) hc howned rfl rfl rfl
      rfl (fun _ _ h => h) rfl (.inr rfl) (fun _ _ => rfl) (fun _ _ _ => ⟨rfl, rfl, rfl⟩)
      (fun before hid hvalue e he => ?_) (fun before hid => ?_) (fun _ => trivial)
    · exact absurd hvalue ((hs.channel id before hid).ended e he).1
    · obtain ⟨hended, hstarted, horigin, hcached⟩ := hs.channel id before hid
      refine ⟨fun e he => ?_, fun b hb => (hstarted b hb).trans (Nat.lt_succ_self _), horigin,
        hcached⟩
      obtain ⟨hvalue, hlt, hbegun⟩ := hended e he
      exact ⟨hvalue, hlt.trans (Nat.lt_succ_self _), hbegun⟩

/-- **A call takes a step.** -/
theorem advance (hs : s.Coherent) (hc : s.calls c = some call) {action : CallAction Dto}
    (hord : s.Orderly (.advance c action)) (h : s.advance lookup c call action = some next) :
    Coherent { next with now := s.now + 1 } := by
  cases action with
  | readCache => exact hs.readCache hc h
  | lockInflight => exact hs.lockInflight hc hord h
  | changed => exact hs.changed hc h
  | takeOver => exact hs.takeOver hc hord h
  | acquirePermit => exact hs.acquirePermit hc h
  | recheckCache => exact hs.recheckCache hc h
  | respond reply => exact hs.respond hc h
  | storeToken => exact hs.storeToken hc h
  | removeInflight => exact hs.removeInflight hc h
  | cancel => exact hs.cancel hc h

theorem ensure (hs : s.Coherent) {address : Bytes} (hc : s.calls c = none) :
    Coherent { s with
      calls := Function.update s.calls c (some { address, stage := .reading, since := s.now })
      now := s.now + 1 } := by
  have hev : Evolves s { s with
      calls := Function.update s.calls c (some { address, stage := .reading, since := s.now })
      now := s.now + 1 } none := by
    refine ⟨rfl, fun _ _ h => h, fun _ _ h _ => h, (fun _ _ _ h => nomatch h),
      fun id channel hnone hsome => ?_⟩
    have hsome : s.channels id = some channel := hsome
    rw [hnone] at hsome
    cases hsome
  refine ⟨hs.fresh, fun id channel hid => hev.channelOk (hs.channel id channel hid), hs.entry,
    fun d other hd => ?_, fun d other hd => ?_, fun d other id hd hid => ?_,
    fun d e other another id hd he hid hid' => ?_⟩
  · obtain ⟨rfl, rfl⟩ | ⟨-, hd⟩ := calls_update hd
    · exact Nat.lt_succ_self _
    · exact (hs.since d other hd).trans (Nat.lt_succ_self _)
  · obtain ⟨rfl, rfl⟩ | ⟨-, hd⟩ := calls_update hd
    · trivial
    · exact hev.callOk (hs.call d other hd) (hs.since d other hd).le fun _ _ h => by cases h
  · obtain ⟨rfl, rfl⟩ | ⟨-, hd⟩ := calls_update hd
    · cases hid
    · exact hs.owner d other id hd hid
  · obtain ⟨rfl, rfl⟩ | ⟨-, hd'⟩ := calls_update hd
    · cases hid
    · obtain ⟨rfl, rfl⟩ | ⟨-, he'⟩ := calls_update he
      · cases hid'
      · exact hs.unique d e other another id hd' he' hid hid'

theorem insertBatch (hs : s.Coherent) (batch : List TokenMetadata) :
    Coherent { s with tokens := batch.foldl orInsert s.tokens, now := s.now + 1 } := by
  have hev : Evolves s { s with tokens := batch.foldl orInsert s.tokens, now := s.now + 1 } none := by
    refine ⟨rfl, fun _ _ h => foldl_orInsert_of_some h, fun _ _ h _ => h,
      (fun _ _ _ h => nomatch h), fun id channel hnone hsome => ?_⟩
    have hsome : s.channels id = some channel := hsome
    rw [hnone] at hsome
    cases hsome
  exact ⟨hs.fresh, fun id channel hid => hev.channelOk (hs.channel id channel hid), hs.entry,
    fun d other hd => (hs.since d other hd).trans (Nat.lt_succ_self _),
    fun d other hd => hev.callOk (hs.call d other hd) (hs.since d other hd).le
      (fun _ _ h => nomatch h), hs.owner, hs.unique⟩

/-- **An orderly step keeps the invariant.** -/
theorem step (hs : s.Coherent) {action : TokenAction Dto} (hord : s.Orderly action)
    (h : s.step lookup action = some s') : s'.Coherent := by
  rw [TokenStore.step] at h
  obtain ⟨next, hnext, rfl⟩ := Option.map_eq_some_iff.mp h
  cases action with
  | ensure c address =>
    rw [perform] at hnext
    split at hnext
    · cases hnext
    · rename_i hc
      cases hnext
      exact hs.ensure hc
  | advance c action =>
    rw [perform] at hnext
    split at hnext
    · rename_i call hc
      exact hs.advance hc hord hnext
    · cases hnext
  | insertBatch batch =>
    cases hnext
    exact hs.insertBatch batch

end Coherent

end TokenStore

/-! ## Runs -/

/-- The stores whose steps are all orderly. -/
def orderlyMachine {Dto : Type} (lookup : TokenLookup Dto) : Machine TokenStore where
  init s := ∃ initial, s = TokenStore.withSource initial
  step s s' := ∃ action, s.Orderly action ∧ s.step lookup action = some s'

/-- In every run of orderly steps, fetches are single-flight in every state. -/
theorem token_fetches_single_flight {Dto : Type} (lookup : TokenLookup Dto) {s : TokenStore}
    (h : (orderlyMachine lookup).Reachable s) : s.SingleFlight lookup := by
  have hcoherent : s.Coherent := h.invariant
    (fun s hinit => by
      obtain ⟨initial, rfl⟩ := hinit
      exact TokenStore.coherent_withSource initial)
    (fun s s' hs hstep => by
      obtain ⟨action, hord, hnext⟩ := hstep
      exact hs.step hord hnext)
  exact hcoherent.singleFlight

/-- The actions are orderly one after another. -/
def TokenStore.OrderlyRun {Dto : Type} (lookup : TokenLookup Dto) :
    TokenStore → List (TokenAction Dto) → TokenStore → Prop
  | s, [], s' => s = s'
  | s, action :: actions, s' =>
    s.Orderly action ∧ ∃ next, s.step lookup action = some next ∧ OrderlyRun lookup next actions s'

theorem TokenStore.OrderlyRun.reachable {Dto : Type} {lookup : TokenLookup Dto}
    {actions : List (TokenAction Dto)} {s s' : TokenStore} (h : s.OrderlyRun lookup actions s')
    (hs : (orderlyMachine lookup).Reachable s) : (orderlyMachine lookup).Reachable s' := by
  induction actions generalizing s with
  | nil =>
    cases h
    exact hs
  | cons action actions ih =>
    obtain ⟨hord, next, hstep, hrest⟩ := h
    exact ih hrest (hs.steps (.single ⟨action, hord, hstep⟩))

/-- Two calls of which one fetches and the other waits: both return what came of the fetch. -/
theorem token_fetches_single_flight_joined :
    ∃ s, (orderlyMachine (.broadcasterBacked 1 200)).Reachable s ∧
      s.calls 0 = some ⟨[7], .returned (.error (.fetchTimeout 200)) 10, 0⟩ ∧
      s.calls 1 = some ⟨[7], .returned (.error (.fetchTimeout 200)) 9, 3⟩ ∧
      s.SingleFlight (.broadcasterBacked 1 200) := by
  have hrun : ∃ s, (TokenStore.withSource fun _ => none).OrderlyRun (.broadcasterBacked 1 200)
      [.ensure 0 [7], .advance 0 .readCache, .advance 0 .lockInflight, .ensure 1 [7],
        .advance 0 .acquirePermit, .advance 0 .recheckCache, .advance 1 .readCache,
        .advance 1 .lockInflight, .advance 0 (.respond .timedOut), .advance 1 .changed,
        .advance 0 .removeInflight] s ∧
      s.calls 0 = some ⟨[7], .returned (.error (.fetchTimeout 200)) 10, 0⟩ ∧
      s.calls 1 = some ⟨[7], .returned (.error (.fetchTimeout 200)) 9, 3⟩ := by
    refine ⟨_, ⟨trivial, _, rfl, trivial, _, rfl, ?_, _, rfl, trivial, _, rfl, trivial, _, rfl,
      trivial, _, rfl, trivial, _, rfl, ?_, _, rfl, trivial, _, rfl, trivial, _, rfl, trivial, _,
      rfl, rfl⟩, rfl, rfl⟩
    · intro call id channel ended _ hid
      cases hid
    · intro call id channel ended hcall hid hchannel hended
      cases hcall
      cases hid
      cases hchannel
      cases hended
  obtain ⟨s, hrun, hcalls⟩ := hrun
  have hreach := hrun.reachable ⟨_, ⟨_, rfl⟩, .refl⟩
  exact ⟨s, hreach, hcalls.1, hcalls.2, token_fetches_single_flight _ hreach⟩

/-- Two calls wait when the owner is dropped: both fetch, and the map has the receiver of one. And
an owner that is dropped after it sent a timeout leaves the timeout to calls that come later. -/
theorem token_fetches_doubled :
    (∃ s, (tokenMachine (.broadcasterBacked 1 200)).Reachable s ∧
      s.calls 1 = some ⟨[7], .fetching 1, 4⟩ ∧ s.calls 2 = some ⟨[7], .fetching 2, 7⟩ ∧
      ¬ s.SingleFlight (.broadcasterBacked 1 200)) ∧
    ∃ s, (tokenMachine (.broadcasterBacked 1 200)).Reachable s ∧
      s.calls 1 = some ⟨[7], .returned (.error (.fetchTimeout 200)) 10, 7⟩ ∧
      ¬ s.SingleFlight (.broadcasterBacked 1 200) := by
  have hinit : (tokenMachine (.broadcasterBacked 1 200)).Reachable
      (TokenStore.withSource fun _ => none) := ⟨_, ⟨_, rfl⟩, .refl⟩
  refine ⟨?_, ?_⟩
  · have hrun : ∃ s, (TokenStore.withSource fun _ => none).runActions (.broadcasterBacked 1 200)
        [.ensure 0 [7], .advance 0 .readCache, .advance 0 .lockInflight,
          .advance 0 .acquirePermit, .ensure 1 [7], .advance 1 .readCache,
          .advance 1 .lockInflight, .ensure 2 [7], .advance 2 .readCache,
          .advance 2 .lockInflight, .advance 0 .cancel, .advance 1 .changed, .advance 2 .changed,
          .advance 1 .takeOver, .advance 2 .takeOver, .advance 1 .acquirePermit,
          .advance 1 .recheckCache, .advance 2 .acquirePermit, .advance 2 .recheckCache] =
          some s ∧
        s.calls 1 = some ⟨[7], .fetching 1, 4⟩ ∧ s.calls 2 = some ⟨[7], .fetching 2, 7⟩ :=
      ⟨_, rfl, rfl, rfl⟩
    obtain ⟨s, hrun, hone, htwo⟩ := hrun
    refine ⟨s, TokenStore.reachable_of_runActions hinit hrun, hone, htwo, fun h => ?_⟩
    have heq := h.outstanding_unique 1 2 _ _ 1 2 hone htwo rfl rfl rfl
    cases heq
  · have hrun : ∃ s, (TokenStore.withSource fun _ => none).runActions (.broadcasterBacked 1 200)
        [.ensure 0 [7], .advance 0 .readCache, .advance 0 .lockInflight,
          .advance 0 .acquirePermit, .advance 0 .recheckCache, .advance 0 (.respond .timedOut),
          .advance 0 .cancel, .ensure 1 [7], .advance 1 .readCache, .advance 1 .lockInflight,
          .advance 1 .changed] = some s ∧
        s.calls 1 = some ⟨[7], .returned (.error (.fetchTimeout 200)) 10, 7⟩ ∧
        s.channels 0 = some ⟨some (.error (.fetchTimeout 200)), true, [7], some 4, some 5⟩ ∧
        ∀ id, s.channels (id + 1) = none := ⟨_, rfl, rfl, rfl, fun _ => rfl⟩
    obtain ⟨s, hrun, hone, hchannel, hnone⟩ := hrun
    refine ⟨s, TokenStore.reachable_of_runActions hinit hrun, hone, fun h => ?_⟩
    obtain ⟨token, hresult, -⟩ | ⟨id, channel, instant, hid, -, hvalue, ⟨b, e, -, hended, -, hle⟩,
      hsince, -⟩ := h.returned 1 _ _ _ hone rfl
    · cases hresult
    · cases id with
      | zero =>
        rw [hchannel] at hid
        cases hid
        cases hended
        -- the call began at 7, the fetch ended at 5
        have hsince : 7 ≤ instant := hsince
        omega
      | succ id =>
        rw [hnone id] at hid
        cases hid

end TychoSimulationServer
