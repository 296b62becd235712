import TychoSimulationServer.Fallible
import TychoSimulationServer.Machine
import TychoSimulationServer.Protocol

/-!
# Writer fencing

Several broadcaster processes may believe they are the writer of one Redis stream. Redis decides:
a *writer key* with a lease names the current writer token, a *generation key* counts promotions,
and four scripts, each atomic, check them before they touch the stream. Entry ids are
`generation-seq`, and `XADD` refuses an id that is not greater than the last one generated.

There are two levels here.

* `redisMachine` — any token may run any script with any arguments at any time, leases expire, the
  generation key gets lost, old entries are trimmed. Safety is proved for this machine.
* `fenceMachine` — publishers with their own state send commands that run later, or never, and
  whose replies may be lost; it is simulated by the first.

The full history of the stream and of the promotions is kept in two ghost fields that no script
reads. Generations and sequence numbers are counted without bound.
-/

namespace TychoSimulationServer

open Fallible

variable {Token : Type}

/-! ## Redis -/

/-- A stream entry id `generation-seq`. -/
structure EntryId where
  generation : Nat
  seq : Nat
deriving DecidableEq, Repr

/-- Ids are ordered by generation, then sequence number. -/
instance : LT EntryId where
  lt a b := a.generation < b.generation ∨ a.generation = b.generation ∧ a.seq < b.seq

theorem EntryId.lt_def {a b : EntryId} :
    a < b ↔ a.generation < b.generation ∨ a.generation = b.generation ∧ a.seq < b.seq :=
  Iff.rfl

instance (a b : EntryId) : Decidable (a < b) :=
  decidable_of_iff _ EntryId.lt_def.symm

/-- Ids are compared by generation first, and then by number. -/
theorem EntryId.lt_trans {a b c : EntryId} (hab : a < b) (hbc : b < c) : a < c := by
  rw [EntryId.lt_def] at *
  omega

/-- A stream entry, with the token that appended it. -/
structure FenceEntry (Token : Type) where
  id : EntryId
  writer : Token
deriving DecidableEq

/-- What Redis holds for one broadcaster stream. -/
structure Redis (Token : Type) where
  /-- the writer key, absent when the lease expired -/
  writer : Option Token
  /-- the generation key, absent when it was lost -/
  generation : Option Nat
  /-- the entries not trimmed yet -/
  entries : List (FenceEntry Token)
  /-- `last-generated-id`, `0-0` without a stream -/
  lastGeneratedId : EntryId
  /-- ghost: every entry ever appended, oldest first -/
  log : List (FenceEntry Token)
  /-- ghost: every promotion, with the token it was for -/
  promotions : List (Nat × Token)
deriving DecidableEq

/-- A Redis without keys and stream. -/
def Redis.empty : Redis Token :=
  { writer := none, generation := none, entries := [], lastGeneratedId := ⟨0, 0⟩
    log := [], promotions := [] }

/-- The errors of the scripts, and the loss of a reply. -/
inductive ScriptError where
  /-- missing Redis broadcaster writer fence -/
  | missingFence
  /-- stale Redis broadcaster writer token -/
  | staleToken
  /-- missing Redis broadcaster writer generation -/
  | missingGeneration
  /-- stale Redis broadcaster writer generation -/
  | staleGeneration
  /-- `XADD` refused the id -/
  | idNotGreater
  /-- no reply arrived -/
  | noReply
deriving DecidableEq, Repr

/-- `is_stale_writer_error`. -/
def ScriptError.isStale : ScriptError → Bool
  | .staleToken | .staleGeneration => true
  | _ => false

/-- A script: it runs atomically, but what it wrote before an error stays written. -/
abbrev Script (Token : Type) := Stateful ScriptError (Redis Token)

/-! ## Scripts

Each script runs whole or fails at a check; what it wrote before an error stays, as in Redis. The
token and the generation are compared before anything is written. -/

/-- The stream with one more entry. -/
def Redis.appended (redis : Redis Token) (writer : Token) (id : EntryId) : Redis Token :=
  { redis with
    entries := redis.entries ++ [⟨id, writer⟩]
    lastGeneratedId := id
    log := redis.log ++ [⟨id, writer⟩] }

/-- The keys after a promotion. -/
def Redis.promoted (redis : Redis Token) (token : Token) (generation : Nat) : Redis Token :=
  { redis with
    generation := some generation
    writer := some token
    promotions := redis.promotions ++ [(generation, token)] }

/-- The generation a promotion moves to: one after the generation key or the stream, whichever is
further. -/
def Redis.nextGeneration (redis : Redis Token) : Nat :=
  let currentGeneration := redis.generation.getD 0
  let streamGeneration := redis.lastGeneratedId.generation
  (if currentGeneration < streamGeneration then streamGeneration else currentGeneration) + 1

/-- `XADD` with an explicit id. -/
def xadd (writer : Token) (id : EntryId) : Script Token Unit := do
  let redis ← get
  check (ensure (redis.lastGeneratedId < id) .idNotGreater)
  set (redis.appended writer id)

/-- The end of `PROMOTE_WRITER_SCRIPT`: move both keys, then add the marker. -/
def promoteNext (token : Token) : Script Token Nat := do
  let redis ← get
  let generation := redis.nextGeneration
  set (redis.promoted token generation)
  xadd token ⟨generation, 1⟩
  pure generation

section Scripts

variable [DecidableEq Token]

/-- `PROMOTE_WRITER_SCRIPT`. Without an expected generation it is a normal promotion, which returns
an earlier promotion of the same token whose marker is still there; with one it reclaims the
token's own generation and must not displace anybody. -/
def promoteWriterScript (token : Token) (expectedGeneration : Option Nat) : Script Token Nat := do
  let redis ← get
  match expectedGeneration with
  | none =>
    match redis.generation with
    | some generation =>
      if redis.writer = some token ∧ redis.entries.any (fun entry => entry.id = ⟨generation, 1⟩)
      then pure generation
      else promoteNext token
    | none => promoteNext token
  | some expected => do
    check (ensure (redis.writer = none ∨ redis.writer = some token) .staleToken)
    check (ensure (redis.generation = none ∨ redis.generation = some expected) .staleGeneration)
    set { redis with generation := some (redis.generation.getD expected) }
    promoteNext token

/-- The fence of `APPEND_FENCED_SCRIPT` and `RENEW_WRITER_SCRIPT`. -/
def checkFence (redis : Redis Token) (token : Token) (generation : Nat) :
    Except ScriptError Unit := do
  ensure (redis.writer ≠ none) .missingFence
  ensure (redis.writer = some token) .staleToken
  ensure (redis.generation ≠ none) .missingGeneration
  ensure (redis.generation = some generation) .staleGeneration

/-- `APPEND_FENCED_SCRIPT`. -/
def appendFencedScript (token : Token) (generation seq : Nat) : Script Token EntryId := do
  let redis ← get
  check (checkFence redis token generation)
  xadd token ⟨generation, seq⟩
  pure ⟨generation, seq⟩

/-- `RENEW_WRITER_SCRIPT`: a lease has no length here, so a renewal only checks the fence. -/
def renewWriterScript (token : Token) (generation : Nat) : Script Token Unit := do
  let redis ← get
  check (checkFence redis token generation)

end Scripts

/-! ## Safety of the scripts

Nothing is assumed of those who run the scripts: any token, any arguments, at any time. -/

/-- **The fencing invariant.** -/
structure FenceInvariant (r : Redis Token) : Prop where
  /-- ids were appended in increasing order -/
  increasing : r.log.Pairwise (fun a b => a.id < b.id)
  /-- the last generated id bounds the log -/
  bounded : ∀ e ∈ r.log, e.id = r.lastGeneratedId ∨ e.id < r.lastGeneratedId
  /-- sequence numbers start at one -/
  seq_pos : ∀ e ∈ r.log, 0 < e.id.seq
  /-- every promotion has its marker -/
  marked : ∀ g t, (g, t) ∈ r.promotions → ∃ m ∈ r.log, m.id = ⟨g, 1⟩
  /-- a generation is promoted for one token -/
  unique : ∀ g t t', (g, t) ∈ r.promotions → (g, t') ∈ r.promotions → t = t'
  /-- every entry was appended by the token its generation was promoted for -/
  owned : ∀ e ∈ r.log, (e.id.generation, e.writer) ∈ r.promotions
  /-- the generation key, while it is there, is the generation of the stream -/
  generation_eq : ∀ g, r.generation = some g → g = r.lastGeneratedId.generation
  /-- both keys together name a promotion -/
  writer_promoted : ∀ g t, r.generation = some g → r.writer = some t → (g, t) ∈ r.promotions
  /-- what is retained is the end of the log -/
  retained : r.entries <:+ r.log

/-- There is nothing to fence in an empty Redis. -/
theorem fenceInvariant_empty : FenceInvariant (Redis.empty : Redis Token) := by
  refine ⟨.nil, ?_, ?_, ?_, ?_, ?_, ?_, ?_, List.suffix_refl _⟩ <;> simp [Redis.empty]

/-- Promotions do not run ahead of the stream. -/
theorem FenceInvariant.promoted_le {r : Redis Token} (h : FenceInvariant r) {g : Nat} {t : Token}
    (hpromoted : (g, t) ∈ r.promotions) : g ≤ r.lastGeneratedId.generation := by
  obtain ⟨m, hm, hid⟩ := h.marked g t hpromoted
  rcases h.bounded m hm with heq | hlt
  · rw [← heq, hid]
  · rw [hid, EntryId.lt_def] at hlt
    simp only at hlt
    omega

/-! ### What a script can do -/

/-- An entry is appended when its id is greater than the last one generated. -/
theorem exec_xadd (writer : Token) (id : EntryId) (r : Redis Token) :
    exec (xadd writer id) r =
      if r.lastGeneratedId < id then (.ok (), r.appended writer id)
      else (.error .idNotGreater, r) := by
  unfold xadd ensure
  rw [exec_get_bind]
  by_cases h : r.lastGeneratedId < id
  · rw [if_pos h, if_pos h]
    rfl
  · rw [if_neg h, if_neg h]
    rfl

/-- A promotion goes beyond every generation that has an entry, even when the key is lost. -/
theorem generation_lt_nextGeneration (r : Redis Token) :
    r.lastGeneratedId.generation < r.nextGeneration := by
  unfold Redis.nextGeneration
  simp only
  split <;> omega

/-- The marker of a new generation is never refused. -/
theorem exec_promoteNext (token : Token) (r : Redis Token) :
    exec (promoteNext token) r =
      (.ok r.nextGeneration,
        (r.promoted token r.nextGeneration).appended token ⟨r.nextGeneration, 1⟩) := by
  have hlt : (r.promoted token r.nextGeneration).lastGeneratedId < ⟨r.nextGeneration, 1⟩ :=
    .inl (generation_lt_nextGeneration r)
  unfold promoteNext
  rw [exec_get_bind, exec_set_bind, exec_bind, exec_xadd, if_pos hlt]
  rfl

section Cases

variable [DecidableEq Token]

/-- A promotion changes nothing, or moves both keys to a generation the stream has not seen and
adds its marker. -/
theorem promoteWriterScript_cases (token : Token) (expected : Option Nat) (r : Redis Token) :
    (exec (promoteWriterScript token expected) r).2 = r ∨
      ∃ g, r.lastGeneratedId.generation < g ∧
        (exec (promoteWriterScript token expected) r).2 =
          (r.promoted token g).appended token ⟨g, 1⟩ := by
  have hnext : ∃ g, r.lastGeneratedId.generation < g ∧ (exec (promoteNext token) r).2 =
      (r.promoted token g).appended token ⟨g, 1⟩ := by
    rw [exec_promoteNext]
    exact ⟨r.nextGeneration, generation_lt_nextGeneration r, rfl⟩
  unfold promoteWriterScript
  rw [exec_get_bind]
  rcases expected with _ | expected
  · rcases r.generation with _ | generation
    · exact .inr hnext
    · simp only
      split
      · exact .inl rfl
      · exact .inr hnext
  · by_cases hwriter : r.writer = none ∨ r.writer = some token
    · by_cases hgeneration : r.generation = none ∨ r.generation = some expected
      · -- both checks pass; the generation key may be restored before it is counted up
        right
        simp only [ensure, hwriter, hgeneration, if_true]
        rw [exec_bind, exec_check]
        simp only
        rw [exec_bind, exec_check]
        simp only
        rw [exec_set_bind, exec_promoteNext]
        exact ⟨_, generation_lt_nextGeneration
          { r with generation := some (r.generation.getD expected) }, rfl⟩
      · left
        simp only [ensure, hwriter, hgeneration, if_true, if_false]
        rfl
    · left
      simp only [ensure, hwriter, if_false]
      rfl

/-- The fence lets the current writer pass, in its own generation. -/
theorem checkFence_eq_ok {r : Redis Token} {token : Token} {generation : Nat} :
    checkFence r token generation = .ok () ↔
      r.writer = some token ∧ r.generation = some generation := by
  unfold checkFence
  simp only [check_bind_eq_ok, ensure_eq_ok]
  constructor
  · rintro ⟨-, hw, -, hg⟩
    exact ⟨hw, hg⟩
  · rintro ⟨hw, hg⟩
    simp [hw, hg]

/-- An append changes nothing, or adds one entry under a fence that names the appender. -/
theorem appendFencedScript_cases (token : Token) (generation seq : Nat) (r : Redis Token) :
    (exec (appendFencedScript token generation seq) r).2 = r ∨
      r.writer = some token ∧ r.generation = some generation ∧
        r.lastGeneratedId < ⟨generation, seq⟩ ∧
        (exec (appendFencedScript token generation seq) r).2 =
          r.appended token ⟨generation, seq⟩ := by
  unfold appendFencedScript
  rw [exec_get_bind, exec_bind, exec_check]
  rcases hfence : checkFence r token generation with e | u
  · exact .inl rfl
  · obtain ⟨hw, hg⟩ := checkFence_eq_ok.mp hfence
    simp only
    rw [exec_bind, exec_xadd]
    by_cases hlt : r.lastGeneratedId < ⟨generation, seq⟩
    · rw [if_pos hlt]
      exact .inr ⟨hw, hg, hlt, rfl⟩
    · rw [if_neg hlt]
      exact .inl rfl

/-- Renewing a lease changes no key and no entry. -/
theorem renewWriterScript_eq (token : Token) (generation : Nat) (r : Redis Token) :
    (exec (renewWriterScript token generation) r).2 = r := by
  unfold renewWriterScript
  rw [exec_get_bind]
  rfl

end Cases

/-! ### The invariant is kept

An entry is appended behind the last id, by the token of the current generation or by a promotion to
a higher one. Both keep the log increasing and the generations apart. -/

/-- Adding an entry with a greater id: what follows for the log alone. -/
theorem FenceInvariant.increasing_appended {r : Redis Token} (h : FenceInvariant r) {id : EntryId}
    (hlt : r.lastGeneratedId < id) (writer : Token) :
    (r.appended writer id).log.Pairwise (fun a b => a.id < b.id) := by
  refine List.pairwise_append.mpr ⟨h.increasing, List.pairwise_singleton _ _, ?_⟩
  intro a ha b hb
  rw [List.mem_singleton] at hb
  subst hb
  rcases h.bounded a ha with heq | hlt'
  · exact heq ▸ hlt
  · exact EntryId.lt_trans hlt' hlt

theorem FenceInvariant.bounded_appended {r : Redis Token} (h : FenceInvariant r) {id : EntryId}
    (hlt : r.lastGeneratedId < id) (writer : Token) :
    ∀ e ∈ (r.appended writer id).log, e.id = id ∨ e.id < id := by
  intro e he
  rcases List.mem_append.mp he with he | he
  · rcases h.bounded e he with heq | hlt'
    · exact .inr (heq ▸ hlt)
    · exact .inr (EntryId.lt_trans hlt' hlt)
  · rw [List.mem_singleton] at he
    subst he
    exact .inl rfl

/-- The retained entries stay the end of the log. -/
theorem FenceInvariant.retained_appended {r : Redis Token} (h : FenceInvariant r) (id : EntryId)
    (writer : Token) : (r.appended writer id).entries <:+ (r.appended writer id).log := by
  obtain ⟨trimmed, htrimmed⟩ := h.retained
  refine ⟨trimmed, ?_⟩
  simp only [Redis.appended, ← htrimmed, List.append_assoc]

/-- **A promotion** keeps the invariant. -/
theorem FenceInvariant.promoted {r : Redis Token} (h : FenceInvariant r) {g : Nat}
    (hlt : r.lastGeneratedId.generation < g) (token : Token) :
    FenceInvariant ((r.promoted token g).appended token ⟨g, 1⟩) := by
  have hid : r.lastGeneratedId < ⟨g, 1⟩ := .inl hlt
  -- the generation is above every one that was promoted
  have hfresh : ∀ t, (g, t) ∉ r.promotions := by
    intro t ht
    have hle := h.promoted_le ht
    omega
  have hlog : ((r.promoted token g).appended token ⟨g, 1⟩).log = r.log ++ [⟨⟨g, 1⟩, token⟩] := rfl
  have hpromotions : ((r.promoted token g).appended token ⟨g, 1⟩).promotions =
      r.promotions ++ [(g, token)] := rfl
  refine ⟨h.increasing_appended hid token, h.bounded_appended hid token, ?_, ?_, ?_, ?_, ?_, ?_,
    h.retained_appended ⟨g, 1⟩ token⟩
  · intro e he
    rw [hlog, List.mem_append, List.mem_singleton] at he
    rcases he with he | rfl
    · exact h.seq_pos e he
    · exact Nat.one_pos
  · intro g' t ht
    rw [hpromotions, List.mem_append, List.mem_singleton, Prod.mk.injEq] at ht
    rw [hlog]
    rcases ht with ht | ⟨rfl, rfl⟩
    · obtain ⟨m, hm, hmid⟩ := h.marked g' t ht
      exact ⟨m, List.mem_append_left _ hm, hmid⟩
    · exact ⟨_, List.mem_append_right _ (List.mem_singleton_self _), rfl⟩
  · intro g' t t' ht ht'
    rw [hpromotions, List.mem_append, List.mem_singleton, Prod.mk.injEq] at ht ht'
    rcases ht with ht | ⟨rfl, rfl⟩ <;> rcases ht' with ht' | ⟨hg, rfl⟩
    · exact h.unique g' t t' ht ht'
    · exact absurd (hg ▸ ht) (hfresh t)
    · exact absurd ht' (hfresh t')
    · rfl
  · intro e he
    rw [hlog, List.mem_append, List.mem_singleton] at he
    rw [hpromotions]
    rcases he with he | rfl
    · exact List.mem_append_left _ (h.owned e he)
    · exact List.mem_append_right _ (List.mem_singleton_self _)
  · intro g' hg'
    exact (Option.some.inj hg').symm
  · intro g' t hg' ht
    obtain rfl := Option.some.inj hg'
    obtain rfl := Option.some.inj ht
    exact List.mem_append_right _ (List.mem_singleton_self _)

/-- **An append** by the current writer keeps it. -/
theorem FenceInvariant.appended {r : Redis Token} (h : FenceInvariant r) {token : Token}
    {generation seq : Nat} (hwriter : r.writer = some token)
    (hgeneration : r.generation = some generation)
    (hlt : r.lastGeneratedId < ⟨generation, seq⟩) :
    FenceInvariant (r.appended token ⟨generation, seq⟩) := by
  have hlast := h.generation_eq generation hgeneration
  have hpromoted := h.writer_promoted generation token hgeneration hwriter
  have hpos : 0 < seq := by
    -- the stream is at this generation already, so only the sequence number can grow
    rw [EntryId.lt_def] at hlt
    simp only at hlt
    omega
  have hlog : (r.appended token ⟨generation, seq⟩).log =
      r.log ++ [⟨⟨generation, seq⟩, token⟩] := rfl
  refine ⟨h.increasing_appended hlt token, h.bounded_appended hlt token, ?_, ?_, h.unique, ?_, ?_,
    h.writer_promoted, h.retained_appended _ token⟩
  · intro e he
    rw [hlog, List.mem_append, List.mem_singleton] at he
    rcases he with he | rfl
    · exact h.seq_pos e he
    · exact hpos
  · intro g t ht
    obtain ⟨m, hm, hmid⟩ := h.marked g t ht
    exact ⟨m, List.mem_append_left _ hm, hmid⟩
  · intro e he
    rw [hlog, List.mem_append, List.mem_singleton] at he
    rcases he with he | rfl
    · exact h.owned e he
    · exact hpromoted
  · intro g hg
    exact Option.some.inj (hg.symm.trans hgeneration)

/-! ### What the invariant says -/

/-- **Safety of the fence**, as the history of the stream shows it. -/
structure FenceSafe (r : Redis Token) : Prop where
  /-- the generation of every entry was promoted for exactly one token -/
  promoted_once : ∀ e ∈ r.log, ∃ t, (e.id.generation, t) ∈ r.promotions ∧
    ∀ t', (e.id.generation, t') ∈ r.promotions → t' = t
  /-- every entry was appended by that token -/
  owned : ∀ e ∈ r.log, (e.id.generation, e.writer) ∈ r.promotions
  /-- ids are strictly increasing -/
  increasing : r.log.Pairwise (fun a b => a.id < b.id)
  /-- a generation starts with its marker -/
  starts : ∀ g e, (r.log.filter (·.id.generation = g)).head? = some e → e.id = ⟨g, 1⟩
  /-- what is still in the stream is the end of that history -/
  retained : r.entries <:+ r.log

/-- **The invariant is enough** for what fencing promises. -/
theorem FenceInvariant.safe {r : Redis Token} (h : FenceInvariant r) : FenceSafe r := by
  refine ⟨fun e he => ?_, h.owned, h.increasing, fun g e he => ?_, h.retained⟩
  · exact ⟨e.writer, h.owned e he, fun t' ht' => h.unique _ t' _ ht' (h.owned e he)⟩
  · -- the marker is in the log, and nothing of its generation comes before it
    have hmem : e ∈ r.log.filter (·.id.generation = g) := List.mem_of_head? he
    rw [List.mem_filter, decide_eq_true_eq] at hmem
    obtain ⟨hlog, hgen⟩ := hmem
    obtain ⟨m, hm, hmid⟩ := h.marked g e.writer (hgen ▸ h.owned e hlog)
    have hmfilter : m ∈ r.log.filter (·.id.generation = g) := by
      rw [List.mem_filter, decide_eq_true_eq, hmid]
      exact ⟨hm, rfl⟩
    have hsorted := h.increasing.filter (·.id.generation = g)
    rcases hlist : r.log.filter (·.id.generation = g) with _ | ⟨first, rest⟩
    · rw [hlist] at he
      cases he
    · rw [hlist] at he hmfilter hsorted
      obtain rfl := Option.some.inj he
      rcases List.mem_cons.mp hmfilter with rfl | hrest
      · exact hmid
      · have hlt := (List.pairwise_cons.mp hsorted).1 m hrest
        have hpos := h.seq_pos first hlog
        rw [hmid, EntryId.lt_def] at hlt
        simp only at hlt
        omega

/-! ## The machine of scripts

The machine of scripts has every interleaving of them in it. The publishers' machine adds what
publishers remember and what is on its way, and is simulated by it: forget the publishers, and a
command that runs is a script. -/

/-- What a publisher may ask Redis to do. -/
inductive FenceCommand where
  /-- a normal promotion, or the recovery of an expected generation -/
  | promote (expectedGeneration : Option Nat)
  /-- a fenced append of the entry `generation-seq` -/
  | append (generation seq : Nat)
  /-- a lease renewal -/
  | renew (generation : Nat)
deriving DecidableEq, Repr

/-- The replies of the scripts. -/
inductive FenceReply where
  | promoted (generation : Nat)
  | appended (id : EntryId)
  | renewed
deriving DecidableEq, Repr

section Commands

variable [DecidableEq Token]

/-- Run the script of a command. -/
def runCommand (token : Token) : FenceCommand → Script Token FenceReply
  | .promote expectedGeneration => do
    let generation ← promoteWriterScript token expectedGeneration
    pure (.promoted generation)
  | .append generation seq => do
    let id ← appendFencedScript token generation seq
    pure (.appended id)
  | .renew generation => do
    renewWriterScript token generation
    pure .renewed

/-- One step of Redis: a script of any caller with any arguments, the expiry of the lease, the loss
of the generation key, or the trimming of old entries. -/
inductive RedisStep : Redis Token → Redis Token → Prop where
  | run (token : Token) (command : FenceCommand) (r : Redis Token) :
      RedisStep r (exec (runCommand token command) r).2
  | expireLease (r : Redis Token) : RedisStep r { r with writer := none }
  | loseGeneration (r : Redis Token) : RedisStep r { r with generation := none }
  | trim (count : Nat) (r : Redis Token) : RedisStep r { r with entries := r.entries.drop count }

/-- Redis under arbitrary callers. -/
def redisMachine (Token : Type) [DecidableEq Token] : Machine (Redis Token) :=
  { init := fun r => r = .empty, step := RedisStep }

/-- A reply does not change what a script did. -/
theorem exec_bind_pure_snd {ε σ α β : Type} (m : Stateful ε σ α) (f : α → β) (s : σ) :
    (exec (do let a ← m; pure (f a)) s).2 = (exec m s).2 := by
  rw [exec_bind]
  rcases exec m s with ⟨_ | a, s'⟩ <;> rfl

/-- **Inversion of a command**: nothing changes, a new generation is promoted, or an entry is
appended under the fence. -/
theorem runCommand_cases (token : Token) (command : FenceCommand) (r : Redis Token) :
    (exec (runCommand token command) r).2 = r ∨
    (∃ g, r.lastGeneratedId.generation < g ∧
      (exec (runCommand token command) r).2 = (r.promoted token g).appended token ⟨g, 1⟩) ∨
    ∃ generation seq, r.writer = some token ∧ r.generation = some generation ∧
      r.lastGeneratedId < ⟨generation, seq⟩ ∧
      (exec (runCommand token command) r).2 = r.appended token ⟨generation, seq⟩ := by
  cases command with
  | promote expectedGeneration =>
    unfold runCommand
    rw [exec_bind_pure_snd]
    rcases promoteWriterScript_cases token expectedGeneration r with h | h
    · exact .inl h
    · exact .inr (.inl h)
  | append generation seq =>
    unfold runCommand
    rw [exec_bind_pure_snd]
    rcases appendFencedScript_cases token generation seq r with h | ⟨hw, hg, hlt, h⟩
    · exact .inl h
    · exact .inr (.inr ⟨generation, seq, hw, hg, hlt, h⟩)
  | renew generation =>
    unfold runCommand
    rw [exec_bind_pure_snd]
    exact .inl (renewWriterScript_eq token generation r)

/-- Every step keeps the invariant. -/
theorem FenceInvariant.step {r r' : Redis Token} (h : FenceInvariant r) (hstep : RedisStep r r') :
    FenceInvariant r' := by
  cases hstep with
  | run token command =>
    rcases runCommand_cases token command r with heq | ⟨g, hlt, heq⟩ |
      ⟨generation, seq, hw, hg, hlt, heq⟩
    · rw [heq]
      exact h
    · rw [heq]
      exact h.promoted hlt token
    · rw [heq]
      exact h.appended hw hg hlt
  | expireLease =>
    exact { h with writer_promoted := fun g t _ ht => by cases ht }
  | loseGeneration =>
    exact { h with
      generation_eq := fun g hg => by cases hg
      writer_promoted := fun g t hg => by cases hg }
  | trim count =>
    exact { h with retained := (List.drop_suffix count r.entries).trans h.retained }

/-- What a step appends is beyond everything that was generated before. -/
theorem redisStep_log {r r' : Redis Token} (hstep : RedisStep r r') :
    ∃ appended, r'.log = r.log ++ appended ∧
      r.lastGeneratedId.generation ≤ r'.lastGeneratedId.generation ∧
      ∀ e ∈ appended, r.lastGeneratedId.generation ≤ e.id.generation := by
  -- most commands and faults append nothing
  have hsame : ∀ r' : Redis Token, r'.log = r.log → r'.lastGeneratedId = r.lastGeneratedId →
      ∃ appended, r'.log = r.log ++ appended ∧
        r.lastGeneratedId.generation ≤ r'.lastGeneratedId.generation ∧
        ∀ e ∈ appended, r.lastGeneratedId.generation ≤ e.id.generation := by
    intro r' hlog hlast
    exact ⟨[], by simp [hlog], by rw [hlast], by simp⟩
  have hone : ∀ (base : Redis Token) (token : Token) (id : EntryId), base.log = r.log →
      r.lastGeneratedId.generation ≤ id.generation →
      ∃ appended, (base.appended token id).log = r.log ++ appended ∧
        r.lastGeneratedId.generation ≤ (base.appended token id).lastGeneratedId.generation ∧
        ∀ e ∈ appended, r.lastGeneratedId.generation ≤ e.id.generation := by
    intro base token id hlog hle
    refine ⟨[⟨id, token⟩], by simp [Redis.appended, hlog], hle, fun e he => ?_⟩
    rw [List.mem_singleton] at he
    subst he
    exact hle
  cases hstep with
  | run token command =>
    rcases runCommand_cases token command r with heq | ⟨g, hlt, heq⟩ |
      ⟨generation, seq, -, -, hlt, heq⟩
    · rw [heq]
      exact hsame r rfl rfl
    · rw [heq]
      exact hone _ token ⟨g, 1⟩ rfl hlt.le
    · rw [heq]
      rw [EntryId.lt_def] at hlt
      refine hone r token ⟨generation, seq⟩ rfl ?_
      simp only at hlt ⊢
      omega
  | expireLease => exact hsame _ rfl rfl
  | loseGeneration => exact hsame _ rfl rfl
  | trim count => exact hsame _ rfl rfl

/-- Along a run the log only grows, by entries beyond the generation it started from. -/
theorem redisSteps_log {r r' : Redis Token} (hsteps : (redisMachine Token).Steps r r') :
    ∃ appended, r'.log = r.log ++ appended ∧
      r.lastGeneratedId.generation ≤ r'.lastGeneratedId.generation ∧
      ∀ e ∈ appended, r.lastGeneratedId.generation ≤ e.id.generation := by
  induction hsteps with
  | refl => exact ⟨[], by simp, le_refl _, by simp⟩
  | tail _ hlast ih =>
    obtain ⟨before, hlog, hle, hbefore⟩ := ih
    obtain ⟨after, hlog', hle', hafter⟩ := redisStep_log hlast
    refine ⟨before ++ after, by rw [hlog', hlog, List.append_assoc], hle.trans hle', ?_⟩
    intro e he
    rcases List.mem_append.mp he with he | he
    · exact hbefore e he
    · exact hle.trans (hafter e he)

/-! ## Publishers

A publisher keeps its mode, the generation it was promoted to and the next sequence number. Its
commands travel to Redis and run there whenever they arrive, possibly after the publisher gave up
on them; a reply reaches it or is lost. -/

/-- `BroadcasterRedisPublisherMode`. -/
inductive PublisherMode where
  | passive
  | active
  | unhealthy
  | retired
deriving DecidableEq, Repr

/-- The fencing part of `BroadcasterRedisPublisherState`. -/
structure FencePublisher where
  mode : PublisherMode
  generation : Nat
  nextMessageSeq : Nat
deriving DecidableEq, Repr

/-- A publisher before its first promotion. -/
def FencePublisher.new : FencePublisher :=
  { mode := .passive, generation := 1, nextMessageSeq := 1 }

/-- The commands a publisher sends from its state: `promote_locked` refuses a retired publisher and
recovers only an unhealthy one, an append carries the publisher's generation and next sequence
number, a renewal its generation. -/
def FencePublisher.Sends (p : FencePublisher) : FenceCommand → Prop
  | .promote none => p.mode ≠ .retired
  | .promote (some expected) => p.mode = .unhealthy ∧ expected = p.generation
  | .append generation seq =>
    p.mode = .active ∧ generation = p.generation ∧ seq = p.nextMessageSeq
  | .renew generation =>
    (p.mode = .active ∨ p.mode = .unhealthy) ∧ generation = p.generation

/-- What a publisher makes of a reply, or of the lack of one. -/
def FencePublisher.handle (p : FencePublisher) :
    FenceCommand → Except ScriptError FenceReply → FencePublisher
  | .promote _, .ok (.promoted generation) =>
    { mode := .active, generation := generation, nextMessageSeq := 2 }
  | .append _ seq, .ok (.appended _) => { p with nextMessageSeq := seq + 1 }
  | .renew _, .ok .renewed => { p with mode := .active }
  | _, .ok _ => p
  | .promote (some _), .error e => { p with mode := if e.isStale then .retired else .unhealthy }
  | .promote none, .error e => { p with mode := if e.isStale then .retired else .passive }
  | .append _ _, .error e => { p with mode := if e.isStale then .retired else .unhealthy }
  | .renew _, .error e => { p with mode := if e.isStale then .retired else .unhealthy }

/-- Publishers, one per token, their commands on the way, and Redis. -/
structure FenceSystem (Token : Type) where
  redis : Redis Token
  publishers : Token → FencePublisher
  inFlight : List (Token × FenceCommand)

/-- Replace the state of one publisher. -/
def FenceSystem.setPublisher (s : FenceSystem Token) (token : Token) (p : FencePublisher) :
    FenceSystem Token :=
  { s with publishers := fun t => if t = token then p else s.publishers t }

/-- One step of the system. -/
inductive FenceStep : FenceSystem Token → FenceSystem Token → Prop where
  /-- a publisher sends a command, for the first time or again -/
  | send (s : FenceSystem Token) (token : Token) (command : FenceCommand) :
      (s.publishers token).Sends command →
        FenceStep s { s with inFlight := (token, command) :: s.inFlight }
  /-- a command arrives, runs, and its reply is lost -/
  | runLost (s : FenceSystem Token) (token : Token) (command : FenceCommand)
      (rest : List (Token × FenceCommand)) : s.inFlight.Perm ((token, command) :: rest) →
        FenceStep s
          { s with redis := (exec (runCommand token command) s.redis).2, inFlight := rest }
  /-- a command arrives, runs, and its reply reaches the publisher -/
  | runReplied (s : FenceSystem Token) (token : Token) (command : FenceCommand)
      (rest : List (Token × FenceCommand)) : s.inFlight.Perm ((token, command) :: rest) →
        FenceStep s
          (FenceSystem.setPublisher
            { s with redis := (exec (runCommand token command) s.redis).2, inFlight := rest } token
            ((s.publishers token).handle command (exec (runCommand token command) s.redis).1))
  /-- a publisher gives up on a command, which may still be on its way -/
  | giveUp (s : FenceSystem Token) (token : Token) (command : FenceCommand) :
      FenceStep s
        (s.setPublisher token ((s.publishers token).handle command (.error .noReply)))
  /-- a publisher changes its mode or resyncs its sequence number with the stream tail -/
  | adopt (s : FenceSystem Token) (token : Token) (mode : PublisherMode) (seq : Nat) :
      FenceStep s
        (s.setPublisher token
          { s.publishers token with mode := mode, nextMessageSeq := seq })
  /-- Redis moves by itself: expiry, loss of the generation key, trimming -/
  | environment (s : FenceSystem Token) (redis : Redis Token) :
      (redis = { s.redis with writer := none } ∨ redis = { s.redis with generation := none } ∨
        ∃ count, redis = { s.redis with entries := s.redis.entries.drop count }) →
        FenceStep s { s with redis := redis }

/-- Any number of publishers on a Redis that starts empty. -/
def fenceMachine (Token : Type) [DecidableEq Token] : Machine (FenceSystem Token) :=
  { init := fun s => s.redis = .empty ∧ (∀ t, s.publishers t = .new) ∧ s.inFlight = []
    step := FenceStep }

/-- Whatever the publishers do, Redis sees a run of scripts. -/
theorem fence_simulation :
    Machine.Simulation (fenceMachine Token) (redisMachine Token) FenceSystem.redis := by
  refine ⟨fun s hs => hs.1, fun s s' hstep => ?_⟩
  cases hstep with
  | send token command _ => exact .refl
  | runLost token command rest _ => exact .single (.run token command s.redis)
  | runReplied token command rest _ => exact .single (.run token command s.redis)
  | giveUp token command => exact .refl
  | adopt token mode seq => exact .refl
  | environment redis h =>
    rcases h with rfl | rfl | ⟨count, rfl⟩
    · exact .single (.expireLease s.redis)
    · exact .single (.loseGeneration s.redis)
    · exact .single (.trim count s.redis)

/-- **Writer fencing is safe.** In every reachable state the stream history is safe, and from there
on no run ever appends an entry of a generation below one that has been promoted. -/
theorem writer_fencing_safe (s : FenceSystem Token) (hs : (fenceMachine Token).Reachable s) :
    FenceSafe s.redis ∧
    ∀ s', (fenceMachine Token).Steps s s' →
      ∃ appended, s'.redis.log = s.redis.log ++ appended ∧
        ∀ e ∈ appended, ∀ g t, (g, t) ∈ s.redis.promotions → g ≤ e.id.generation := by
  have hinv : FenceInvariant s.redis := by
    refine Machine.Reachable.invariant (fun r hr => ?_) (fun r r' h hstep => h.step hstep)
      (fence_simulation.reachable hs)
    obtain rfl : r = .empty := hr
    exact fenceInvariant_empty
  refine ⟨hinv.safe, fun s' hsteps => ?_⟩
  obtain ⟨appended, hlog, -, happended⟩ := redisSteps_log (fence_simulation.steps hsteps)
  refine ⟨appended, hlog, fun e he g t hg => ?_⟩
  exact (hinv.promoted_le hg).trans (happended e he)

end Commands

/-- Two publishers before anything happened. -/
def twoPublishers : FenceSystem Bool :=
  { redis := .empty, publishers := fun _ => .new, inFlight := [] }

/-- The first of them has sent its promotion. -/
def promotionSent : FenceSystem Bool :=
  { twoPublishers with inFlight := [(true, .promote none)] }

/-- The promotion ran, and its reply was lost. -/
def promotionLost : FenceSystem Bool :=
  { twoPublishers with redis := (Redis.empty.promoted true 1).appended true ⟨1, 1⟩ }

/-- A promotion whose reply is lost leaves a safe history with its marker in it. -/
theorem writer_fencing_safe_promotion_lost :
    (fenceMachine Bool).Reachable promotionLost ∧ FenceSafe promotionLost.redis := by
  have hsends : (twoPublishers.publishers true).Sends (.promote none) := by
    simp [FencePublisher.Sends, twoPublishers, FencePublisher.new]
  have hsent : FenceStep twoPublishers promotionSent :=
    .send twoPublishers true (.promote none) hsends
  have hlost : FenceStep promotionSent promotionLost :=
    .runLost promotionSent true (.promote none) [] (List.Perm.refl _)
  have hreach : (fenceMachine Bool).Reachable promotionLost :=
    ⟨twoPublishers, ⟨rfl, fun _ => rfl, rfl⟩, .tail (.single hsent) hlost⟩
  exact ⟨hreach, (writer_fencing_safe promotionLost hreach).1⟩

end TychoSimulationServer
