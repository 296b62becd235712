import Mathlib.Logic.Function.Basic
import TychoSimulationServer.Machine
import TychoSimulationServer.SnapshotSplit

/-!
# The token store

`TokenStore::ensure` answers from the cache or asks upstream. Calls for one address share a fetch:
the call that finds no receiver in the in-flight map makes a watch channel, puts the receiver into
the map and fetches (it *owns* the channel); a call that finds one waits on a clone. A future can
be dropped at each await, so the machine here has one step for each stretch of code between two
awaits, and `cancel` drops a call in any of its stages.

The clock, the times a call or a fetch began and ended and the address of a channel are history:
no step reads them.
-/

namespace TychoSimulationServer

/-! ## Tokens and where they come from

Tokens come from an RPC of the indexer or from the broadcaster's endpoint, whichever the store was
given. Both answer with a list, in which the token that was asked for is searched; a token that
cannot be converted is unknown to the one and an error of the other. -/

/-- The token metadata that is cached. -/
structure TokenMetadata where
  address : Bytes
  symbol : String
  decimals : UInt32
  tax : UInt64
  gas : List (Option UInt64)
  chain : UInt64
  quality : UInt32
deriving DecidableEq, Repr

/-- `TokenStoreError`; the duration of a timeout in milliseconds. -/
inductive TokenStoreError where
  | fetchTimeout (duration : Nat)
  | requestFailed (message : String)
deriving DecidableEq, Repr

/-- What `ensure` returns, and what goes through the watch channels. -/
abbrev FetchResult := Except TokenStoreError (Option TokenMetadata)

/-- `TokenFetchSource`, without its URLs. -/
inductive TokenFetchSource where
  | tycho
  | broadcaster
  | localOnly
deriving DecidableEq, Repr

/-- What the fetch source of a store is and does to the tokens of a reply (`Dto`). The conversion
keeps the address. -/
structure TokenLookup (Dto : Type) where
  source : TokenFetchSource
  fetchTimeout : Nat
  address : Dto → Bytes
  intoToken : Dto → Except String TokenMetadata
  intoToken_address : ∀ dto token, intoToken dto = .ok token → token.address = address dto

/-- `BroadcasterTokenDto`. -/
structure BroadcasterTokenDto where
  address : Bytes
  symbol : String
  decimals : UInt32
  tax : UInt64
  gas : List (Option UInt64)
  chainId : UInt64
  quality : UInt32
deriving DecidableEq, Repr

/-- `BroadcasterTokenDto::into_token`, with the text of its error. -/
def BroadcasterTokenDto.intoToken (chain : UInt64) (dto : BroadcasterTokenDto) :
    Except String TokenMetadata :=
  if dto.chainId ≠ chain then
    .error ("token chain id mismatch: expected " ++ toString chain ++ ", got " ++
      toString dto.chainId)
  else
    .ok { address := dto.address, symbol := dto.symbol, decimals := dto.decimals, tax := dto.tax
          gas := dto.gas, chain, quality := dto.quality }

/-- A token that is made from a reply has the address of the reply. -/
theorem BroadcasterTokenDto.intoToken_address {chain : UInt64} (dto : BroadcasterTokenDto)
    (token : TokenMetadata) (h : dto.intoToken chain = .ok token) :
    token.address = dto.address := by
  rw [intoToken] at h
  split at h
  · cases h
  · cases h
    rfl

/-- The source of `TokenStore::broadcaster_backed`. -/
def TokenLookup.broadcasterBacked (chain : UInt64) (fetchTimeout : Nat) :
    TokenLookup BroadcasterTokenDto where
  source := .broadcaster
  fetchTimeout
  address := BroadcasterTokenDto.address
  intoToken := BroadcasterTokenDto.intoToken chain
  intoToken_address := BroadcasterTokenDto.intoToken_address

/-- How a request to the source ends. -/
inductive FetchReply (Dto : Type) where
  | timedOut
  | sendFailed (message : String)
  | badStatus (status : String)
  | undecodable (message : String)
  | tokens (dtos : List Dto)

namespace TokenLookup

variable {Dto : Type} (lookup : TokenLookup Dto)

/-- `parse_tycho_token_response` after the body is decoded: a token that does not convert counts
as none. -/
def parseTychoTokens (address : Bytes) (dtos : List Dto) : FetchResult :=
  match dtos.find? fun dto => lookup.address dto = address with
  | none => .ok none
  | some dto => .ok (lookup.intoToken dto).toOption

/-- `parse_broadcaster_token_response` after the body is decoded. -/
def parseBroadcasterTokens (address : Bytes) (dtos : List Dto) : FetchResult :=
  match dtos.find? fun dto => lookup.address dto = address with
  | none => .ok none
  | some dto =>
    match lookup.intoToken dto with
    | .ok token => .ok (some token)
    | .error message => .error (.requestFailed message)

/-- `fetch_token_result` up to the write to the cache. -/
def fetchTokenResult (address : Bytes) : FetchReply Dto → FetchResult
  | .timedOut => .error (.fetchTimeout lookup.fetchTimeout)
  | .sendFailed message => .error (.requestFailed message)
  | .badStatus status =>
    if lookup.source = .tycho then
      .error (.requestFailed ("Tycho RPC returned status " ++ status ++ " when fetching token " ++
        address.display))
    else
      .error (.requestFailed ("broadcaster token lookup returned status " ++ status ++
        " when fetching token " ++ address.display))
  | .undecodable message =>
    if lookup.source = .tycho then
      .error (.requestFailed ("Failed to parse token response: " ++ message))
    else
      .error (.requestFailed ("Failed to parse broadcaster token response: " ++ message))
  | .tokens dtos =>
    if lookup.source = .tycho then lookup.parseTychoTokens address dtos
    else lookup.parseBroadcasterTokens address dtos

/-- A fetched token has the address it was fetched for. -/
theorem fetchTokenResult_address {address : Bytes} {reply : FetchReply Dto}
    {token : TokenMetadata} (h : lookup.fetchTokenResult address reply = .ok (some token)) :
    token.address = address := by
  cases reply with
  | timedOut | sendFailed => cases h
  | badStatus | undecodable =>
    rw [fetchTokenResult] at h
    split at h <;> cases h
  | tokens dtos =>
    rw [fetchTokenResult] at h
    -- both upstreams look for the address among the tokens they were sent
    have hfound : ∃ dto, dtos.find? (fun dto => lookup.address dto = address) = some dto ∧
        lookup.intoToken dto = .ok token := by
      split at h
      · rw [parseTychoTokens] at h
        split at h
        · cases h
        · rename_i dto hdto
          cases hconv : lookup.intoToken dto with
          | ok converted =>
            rw [hconv] at h
            obtain rfl : converted = token := by simpa [Except.toOption] using h
            exact ⟨dto, hdto, hconv⟩
          | error message =>
            rw [hconv] at h
            simp [Except.toOption] at h
      · rw [parseBroadcasterTokens] at h
        split at h
        · cases h
        · rename_i dto hdto
          split at h
          · rename_i hconv
            cases h
            exact ⟨dto, hdto, hconv⟩
          · cases h
    obtain ⟨dto, hdto, hconv⟩ := hfound
    rw [lookup.intoToken_address dto token hconv]
    simpa using List.find?_some hdto

end TokenLookup

/-! ## The store and the calls

A call is a sequence of awaits, so its place in the code is part of the state. The actions are the
pieces between two awaits, and the ones at which a call may be dropped. -/

/-- A watch channel of a fetch. -/
structure FetchChannel where
  /-- the value sent, `none` before -/
  value : Option FetchResult
  /-- the sender was dropped -/
  closed : Bool
  /-- history: the address fetched -/
  address : Bytes
  /-- history: when `fetch_token_result` was entered -/
  started : Option Nat
  /-- history: when it returned -/
  ended : Option Nat
deriving DecidableEq

/-- The await a call of `ensure` stands at, with the channel it waits on or owns. -/
inductive CallStage where
  /-- `ensure`, before the look into the cache -/
  | reading
  /-- `fetch_token`, before the in-flight map is locked -/
  | locking
  /-- on a clone of the receiver that was in the map -/
  | waiting (channel : Nat)
  /-- the channel closed without a value; before the map is locked again -/
  | takingOver
  /-- owner, before the semaphore permit -/
  | queued (channel : Nat)
  /-- owner with a permit, before the second look into the cache -/
  | checking (channel : Nat)
  /-- owner with a permit and a request under way -/
  | fetching (channel : Nat)
  /-- owner with a permit and a token, before the cache is locked for writing -/
  | storing (channel : Nat) (token : TokenMetadata)
  /-- the result is sent; before the map is locked to remove the entry -/
  | removing (channel : Nat) (result : FetchResult)
  | returned (result : FetchResult) (time : Nat)
  | cancelled
deriving DecidableEq

namespace CallStage

/-- The channel of a call that put its receiver into the map and has not removed it yet. -/
def owned : CallStage → Option Nat
  | queued channel | checking channel | fetching channel | storing channel _
  | removing channel _ => some channel
  | _ => none

/-- The channel of an owner inside `fetch_token_result`: a fetch is outstanding. -/
def outstanding : CallStage → Option Nat
  | fetching channel | storing channel _ => some channel
  | _ => none

/-- The call holds a permit of the semaphore. -/
def holdsPermit : CallStage → Bool
  | checking _ | fetching _ | storing _ _ => true
  | _ => false

/-- A call that waits for a fetch owns the channel it answers on. -/
theorem owned_of_outstanding {stage : CallStage} {id : Nat} (h : stage.outstanding = some id) :
    stage.owned = some id := by
  cases stage <;> simp_all [outstanding, owned]

end CallStage

/-- A call of `ensure`. -/
structure EnsureCall where
  address : Bytes
  stage : CallStage
  /-- history: when the call began -/
  since : Nat
deriving DecidableEq

/-- A `TokenStore` with the calls in it. Channels are numbered in the order they are made. -/
structure TokenStore where
  tokens : Bytes → Option TokenMetadata
  inflight : Bytes → Option Nat
  permits : Nat
  channels : Nat → Option FetchChannel
  nextChannel : Nat
  calls : Nat → Option EnsureCall
  /-- history: the number of steps so far -/
  now : Nat

/-- `TokenStore::with_source`. -/
def TokenStore.withSource (initial : Bytes → Option TokenMetadata) : TokenStore where
  tokens := initial
  inflight := fun _ => none
  permits := 16
  channels := fun _ => none
  nextChannel := 0
  calls := fun _ => none
  now := 0

namespace TokenStore

variable (s : TokenStore)

/-- `tokens.entry(token.address).or_insert(token)`. -/
def orInsert (tokens : Bytes → Option TokenMetadata) (token : TokenMetadata) :
    Bytes → Option TokenMetadata :=
  Function.update tokens token.address (some ((tokens token.address).getD token))

/-- The call moves to `stage`. -/
def setStage (caller : Nat) (call : EnsureCall) (stage : CallStage) : TokenStore :=
  { s with calls := Function.update s.calls caller (some { call with stage }) }

/-- A new channel, its receiver put into the map whatever was there, and the call its owner. -/
def insertReceiver (caller : Nat) (call : EnsureCall) : TokenStore :=
  { s.setStage caller call (.queued s.nextChannel) with
    inflight := Function.update s.inflight call.address (some s.nextChannel)
    channels := Function.update s.channels s.nextChannel
      (some { value := none, closed := false, address := call.address, started := none
              ended := none })
    nextChannel := s.nextChannel + 1 }

/-- The channel becomes `f` of what it was. -/
def modifyChannel (id : Nat) (f : FetchChannel → FetchChannel) : TokenStore :=
  { s with channels := Function.update s.channels id ((s.channels id).map f) }

/-- The end of `fetch_token_inner`: the result is sent, the permit released, the sender dropped.
(Without receivers `send` fails, and nobody is left to see the difference.) -/
def sendResult (caller : Nat) (call : EnsureCall) (id : Nat) (result : FetchResult) :
    TokenStore :=
  { (s.setStage caller call (.removing id result)).modifyChannel id
      (fun channel => { channel with value := some result, closed := true }) with
    permits := s.permits + 1 }

/-- History: `fetch_token_result` is entered. -/
def noteStart (id : Nat) : TokenStore :=
  s.modifyChannel id fun channel => { channel with started := some s.now }

/-- History: `fetch_token_result` returned. -/
def noteEnd (id : Nat) : TokenStore :=
  s.modifyChannel id fun channel => { channel with ended := some s.now }

/-- A call is dropped: its permit is released, the sender of an owner dropped. The map keeps the
receiver. -/
def dropCall (caller : Nat) (call : EnsureCall) : TokenStore :=
  let dropped := s.setStage caller call .cancelled
  let released := if call.stage.holdsPermit then s.permits + 1 else s.permits
  match call.stage.owned with
  | some id =>
    { dropped.modifyChannel id (fun channel => { channel with closed := true }) with
      permits := released }
  | none => { dropped with permits := released }

end TokenStore

/-- How a call goes on from the await it stands at. -/
inductive CallAction (Dto : Type) where
  | readCache
  | lockInflight
  | changed
  | takeOver
  | acquirePermit
  | recheckCache
  | respond (reply : FetchReply Dto)
  | storeToken
  | removeInflight
  | cancel

namespace TokenStore

variable {Dto : Type} (lookup : TokenLookup Dto)

/-- One stretch of a call, from the await it stands at to the next. -/
def advance (s : TokenStore) (caller : Nat) (call : EnsureCall) :
    CallAction Dto → Option TokenStore
  | .readCache =>
    if call.stage = .reading then
      match s.tokens call.address with
      | some token => some (s.setStage caller call (.returned (.ok (some token)) s.now))
      | none => some (s.setStage caller call .locking)
    else none
  | .lockInflight =>
    if call.stage = .locking then
      match s.inflight call.address with
      | some id => some (s.setStage caller call (.waiting id))
      | none => some (s.insertReceiver caller call)
    else none
  | .changed =>
    match call.stage with
    | .waiting id =>
      match s.channels id with
      | some channel =>
        match channel.value with
        -- a sent value is a change for a clone that has not seen it, also when the sender is gone
        | some result => some (s.setStage caller call (.returned result s.now))
        | none => if channel.closed then some (s.setStage caller call .takingOver) else none
      | none => none
    | _ => none
  | .takeOver =>
    if call.stage = .takingOver then some (s.insertReceiver caller call) else none
  | .acquirePermit =>
    match call.stage with
    | .queued id =>
      if 0 < s.permits then
        some { s.setStage caller call (.checking id) with permits := s.permits - 1 }
      else none
    | _ => none
  | .recheckCache =>
    match call.stage with
    | .checking id =>
      match s.tokens call.address with
      | some token => some (s.sendResult caller call id (.ok (some token)))
      | none =>
        if lookup.source = .localOnly then
          some (((s.noteStart id).noteEnd id).sendResult caller call id (.ok none))
        else
          some ((s.noteStart id).setStage caller call (.fetching id))
    | _ => none
  | .respond reply =>
    match call.stage with
    | .fetching id =>
      match lookup.fetchTokenResult call.address reply with
      | .ok (some token) => some (s.setStage caller call (.storing id token))
      | result => some ((s.noteEnd id).sendResult caller call id result)
    | _ => none
  | .storeToken =>
    match call.stage with
    | .storing id token =>
      some { (s.noteEnd id).sendResult caller call id (.ok (some token)) with
             tokens := orInsert s.tokens token }
    | _ => none
  | .removeInflight =>
    match call.stage with
    | .removing _ result =>
      -- the entry of the address goes, whoever put it there
      some { s.setStage caller call (.returned result s.now) with
             inflight := Function.update s.inflight call.address none }
    | _ => none
  | .cancel =>
    match call.stage with
    | .returned _ _ | .cancelled => none
    | _ => some (s.dropCall caller call)

end TokenStore

/-- What happens in a store: a new call of `ensure`, a call that goes on, `insert_batch`. -/
inductive TokenAction (Dto : Type) where
  | ensure (caller : Nat) (address : Bytes)
  | advance (caller : Nat) (action : CallAction Dto)
  | insertBatch (tokens : List TokenMetadata)

namespace TokenStore

variable {Dto : Type} (lookup : TokenLookup Dto)

/-- A step but for the clock. -/
def perform (s : TokenStore) : TokenAction Dto → Option TokenStore
  | .ensure caller address =>
    match s.calls caller with
    | some _ => none
    | none =>
      some { s with calls := Function.update s.calls caller
                      (some { address, stage := .reading, since := s.now }) }
  | .advance caller action =>
    match s.calls caller with
    | some call => s.advance lookup caller call action
    | none => none
  | .insertBatch tokens => some { s with tokens := tokens.foldl orInsert s.tokens }

/-- One step of the store, `none` when the action cannot happen. -/
def step (s : TokenStore) (action : TokenAction Dto) : Option TokenStore :=
  (s.perform lookup action).map fun next => { next with now := s.now + 1 }

/-- The actions one after another. -/
def runActions (s : TokenStore) (actions : List (TokenAction Dto)) : Option TokenStore :=
  actions.foldlM (TokenStore.step lookup) s

end TokenStore

/-- The stores with any actions in any order. -/
def tokenMachine {Dto : Type} (lookup : TokenLookup Dto) : Machine TokenStore where
  init s := ∃ initial, s = TokenStore.withSource initial
  step s s' := ∃ action, s.step lookup action = some s'

theorem TokenStore.reachable_of_runActions {Dto : Type} {lookup : TokenLookup Dto}
    {actions : List (TokenAction Dto)} {s s' : TokenStore} (hs : (tokenMachine lookup).Reachable s)
    (hrun : s.runActions lookup actions = some s') : (tokenMachine lookup).Reachable s' := by
  induction actions generalizing s with
  | nil =>
    cases hrun
    exact hs
  | cons action actions ih =>
    rw [runActions, List.foldlM_cons] at hrun
    obtain ⟨middle, hstep, hrest⟩ := Option.bind_eq_some_iff.mp hrun
    exact ih (hs.steps (.single ⟨action, hstep⟩)) hrest

end TychoSimulationServer
