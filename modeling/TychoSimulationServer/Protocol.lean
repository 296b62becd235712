import Mathlib.Algebra.Order.Ring.Nat
import Mathlib.Data.List.TakeWhile
import Mathlib.Tactic.Common

/-!
# Protocols and backends

Every pool, feed message and sync status belongs to one of eighteen protocols, and every protocol
is served by one of three backends. The classification reads only names: a component's
`protocol_system`, then its `protocol_type_name`, or the key of a sync status, each normalised
first. Everything the broadcaster later partitions by backend goes through `backendForKind`.
-/

namespace TychoSimulationServer

/-! ## Base types -/

/-- Hex bytes: addresses, hashes, storage words. Ordered lexicographically, as in the source. -/
abbrev Bytes := List UInt8

instance Bytes.instLawfulBEq : LawfulBEq Bytes := inferInstance

/-- A finite map. `BTreeMap` and `HashMap` are both modelled by it: two maps with the same lookups
are equal, and `toList` is in key order. -/
abbrev FinMap (κ υ : Type) [Ord κ] := Std.ExtTreeMap κ υ

/-- A finite set, listed in order; models `BTreeSet` and `HashSet`. -/
abbrev FinSet (κ : Type) [Ord κ] := Std.ExtTreeSet κ

/-- A backend of the broadcaster, in the order the source derives. -/
inductive BroadcasterBackend where
  | native
  | vm
  | rfq
deriving DecidableEq, Repr, Ord

instance : Std.TransOrd BroadcasterBackend where
  eq_swap {a b} := by cases a <;> cases b <;> rfl
  isLE_trans {a b c} := by cases a <;> cases b <;> cases c <;> decide

instance : Std.LawfulEqOrd BroadcasterBackend where
  eq_of_compare {a b} := by cases a <;> cases b <;> decide
  compare_self := by intro a; cases a <;> rfl

/-- All backends, in order. -/
def BroadcasterBackend.all : List BroadcasterBackend := [.native, .vm, .rfq]

@[simp] theorem BroadcasterBackend.mem_all (b : BroadcasterBackend) :
    b ∈ BroadcasterBackend.all := by
  cases b <;> decide

/-- `BroadcasterBackend::as_str`. -/
def BroadcasterBackend.asStr : BroadcasterBackend → String
  | .native => "native"
  | .vm => "vm"
  | .rfq => "rfq"

/-! ## Text -/

/-- `char::is_whitespace`. -/
def isRustWhitespace (c : Char) : Bool :=
  let n := c.toNat
  (9 ≤ n && n ≤ 13) || n = 32 || n = 133 || n = 160 || n = 5760 || (8192 ≤ n && n ≤ 8202)
    || n = 8232 || n = 8233 || n = 8239 || n = 8287 || n = 12288

/-- `str::trim`. -/
def rustTrim (text : String) : String :=
  String.ofList
    (((text.toList.dropWhile isRustWhitespace).reverse.dropWhile isRustWhitespace).reverse)

/-- A text with a character that is no white space does not trim to nothing. -/
theorem rustTrim_ne_empty {text : String} {c : Char} (hmem : c ∈ text.toList)
    (hc : isRustWhitespace c = false) : rustTrim text ≠ "" := by
  intro hempty
  have hkept : c ∈ text.toList.dropWhile isRustWhitespace := by
    rw [← List.takeWhile_append_dropWhile (p := isRustWhitespace) (l := text.toList)] at hmem
    rcases List.mem_append.mp hmem with hskipped | hkept
    · rw [List.mem_takeWhile_imp hskipped] at hc
      cases hc
    · exact hkept
  have hnil := congrArg String.toList hempty
  rw [rustTrim, String.toList_ofList, String.toList_empty, List.reverse_eq_nil_iff,
    List.dropWhile_eq_nil_iff] at hnil
  rw [hnil c (List.mem_reverse.mpr hkept)] at hc
  cases hc

/-! ## Protocol kinds

A kind has two names, the system it belongs to and the type of its pools; both tables list what the
source's matches list, after normalisation. -/

/-- A supported protocol. -/
inductive ProtocolKind where
  | uniswapV2
  | uniswapV3
  | uniswapV4
  | aerodromeSlipstreams
  | curve
  | pancakeswapV2
  | pancakeswapV3
  | ekuboV2
  | sushiswapV2
  | maverickV2
  | balancerV2
  | fluidV1
  | rocketpool
  | ekuboV3
  | erc4626
  | hashflow
  | bebop
  | liquorice
deriving DecidableEq, Repr, Ord

instance : Std.TransOrd ProtocolKind where
  eq_swap {a b} := by
    cases a <;> cases b <;> rfl
  isLE_trans {a b c} h h' := by
    have key : ∀ x y : ProtocolKind, (compare x y).isLE = true ↔ x.ctorIdx ≤ y.ctorIdx := by
      intro x y
      cases x <;> cases y <;> decide
    rw [key] at *
    exact Nat.le_trans h h'

instance : Std.LawfulEqOrd ProtocolKind where
  eq_of_compare {a b} := by cases a <;> cases b <;> decide
  compare_self := by intro a; cases a <;> rfl

/-- `ProtocolKind::ALL`. -/
def ProtocolKind.all : List ProtocolKind :=
  [.uniswapV2, .uniswapV3, .uniswapV4, .aerodromeSlipstreams, .curve, .pancakeswapV2,
    .pancakeswapV3, .ekuboV2, .sushiswapV2, .maverickV2, .balancerV2, .fluidV1, .rocketpool,
    .ekuboV3, .erc4626, .hashflow, .bebop, .liquorice]

@[simp] theorem ProtocolKind.mem_all (k : ProtocolKind) : k ∈ ProtocolKind.all := by
  cases k <;> decide

/-- `normalize_proto_name`: ASCII lower case, with `-` and blank read as `_`. -/
def normalizeProtoName (name : String) : String :=
  String.ofList (name.toList.map fun c =>
    if c.toLower = '-' ∨ c.toLower = ' ' then '_' else c.toLower)

/-- `ProtocolKind::from_protocol_system`, on a normalised name. -/
def ProtocolKind.fromProtocolSystem (name : String) : Option ProtocolKind :=
  match name with
  | "uniswap_v2" => some .uniswapV2
  | "sushiswap_v2" => some .sushiswapV2
  | "pancakeswap_v2" => some .pancakeswapV2
  | "uniswap_v3" => some .uniswapV3
  | "pancakeswap_v3" => some .pancakeswapV3
  | "uniswap_v4" => some .uniswapV4
  | "aerodrome_slipstreams" => some .aerodromeSlipstreams
  | "ekubo_v2" => some .ekuboV2
  | "ekubo_v3" => some .ekuboV3
  | "fluid_v1" => some .fluidV1
  | "rocketpool" => some .rocketpool
  | "vm:curve" => some .curve
  | "vm:balancer_v2" => some .balancerV2
  | "vm:maverick_v2" => some .maverickV2
  | "erc4626" => some .erc4626
  | "rfq:hashflow" => some .hashflow
  | "rfq:bebop" => some .bebop
  | "rfq:liquorice" => some .liquorice
  | _ => none

/-- `ProtocolKind::from_protocol_type_name`, on a normalised name. -/
def ProtocolKind.fromProtocolTypeName (name : String) : Option ProtocolKind :=
  match name with
  | "uniswap_v2_pool" => some .uniswapV2
  | "sushiswap_v2_pool" => some .sushiswapV2
  | "pancakeswap_v2_pool" => some .pancakeswapV2
  | "uniswap_v3_pool" => some .uniswapV3
  | "pancakeswap_v3_pool" => some .pancakeswapV3
  | "uniswap_v4_pool" => some .uniswapV4
  | "ekubo_v2_pool" => some .ekuboV2
  | "ekubo_v3_pool" => some .ekuboV3
  | "fluid_dex_pool" => some .fluidV1
  | "curve_pool" => some .curve
  | "balancer_v2_pool" => some .balancerV2
  | "maverick_v2_pool" => some .maverickV2
  | "erc4626_pool" => some .erc4626
  | "hashflow_pool" => some .hashflow
  | "bebop_pool" => some .bebop
  | "liquorice_pool" => some .liquorice
  | _ => none

/-! ## Components -/

/-- A token of a component; the modelled code reads its address only. -/
structure Token where
  address : Bytes
deriving DecidableEq, Repr

/-- The decoded `ProtocolComponent`, with the fields the modelled code reads. -/
structure ProtocolComponent where
  id : Bytes
  protocolSystem : String
  protocolTypeName : String
  tokens : List Token
deriving DecidableEq, Repr

/-- `ProtocolKind::from_component`. -/
def ProtocolKind.fromComponent (component : ProtocolComponent) : Option ProtocolKind :=
  match fromProtocolSystem (normalizeProtoName component.protocolSystem) with
  | some kind => some kind
  | none => fromProtocolTypeName (normalizeProtoName component.protocolTypeName)

/-- `ProtocolKind::from_protocol_hint`. -/
def ProtocolKind.fromProtocolHint (protocol : String) : Option ProtocolKind :=
  match fromProtocolSystem (normalizeProtoName protocol) with
  | some kind => some kind
  | none => fromProtocolTypeName (normalizeProtoName protocol)

/-- `ProtocolKind::from_sync_state_key`. -/
def ProtocolKind.fromSyncStateKey (protocol : String) : Option ProtocolKind :=
  fromProtocolSystem (normalizeProtoName protocol)

/-- `backend_for_kind`. -/
def backendForKind : ProtocolKind → BroadcasterBackend
  | .curve | .balancerV2 | .maverickV2 => .vm
  | .hashflow | .bebop | .liquorice => .rfq
  | _ => .native

end TychoSimulationServer
