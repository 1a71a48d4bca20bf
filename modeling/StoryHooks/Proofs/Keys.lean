import StoryHooks.Bridge.Step

/-!
# Keys, calls and symbols

A key is read as a number: the id in the low half, and above it a tag that stands for the phase
bits. The tags of nodes are multiples of four and those of functions are one and two, so a key gives
back what it was made of.

Results:
1. `node_inj`, `function_inj`, `node_ne_function`: two keys are equal only if they are made alike.
2. `EngineCall.key_eq`: the key of a call says where the call is made, on which side of the
   operation, and whether for a deletion.
3. `Symbol.routeKey_eq_key_iff`: a subscription and a call meet at a key exactly if the call is one
   that the phase of the subscription asks for.
-/

namespace StoryHooks

namespace RouteKey

/-- The tag of a node's key, in units of the lowest phase bit. -/
def nodeTag (after deleted : Bool) : Nat := 8 * after.toNat + 4 * deleted.toNat

/-- The tag of a function's key, in units of the lowest phase bit. -/
def functionTag (after : Bool) : Nat := 2 - after.toNat

/-- A tag above an id, put together bit by bit, is their sum. -/
theorem toNat_or_tag (number : UInt32) {flags : UInt64} {tag : Nat}
    (h : flags.toNat = 0x1000000000000000 * tag) :
    (number.toUInt64 ||| flags).toNat = 0x1000000000000000 * tag + number.toNat := by
  have hlt : number.toNat < 0x1000000000000000 := Nat.lt_trans number.toNat_lt (by decide)
  rw [UInt64.toNat_or, UInt32.toNat_toUInt64, h, Nat.or_comm]
  exact (Nat.two_pow_add_eq_or_of_lt (i := 60) hlt tag).symm

theorem toNat_bits_node (id : NodeId) (after deleted : Bool) :
    (node id after deleted).bits.toNat =
      0x1000000000000000 * nodeTag after deleted + id.number.toNat := by
  refine toNat_or_tag id.number ?_
  cases after <;> cases deleted <;> decide

theorem toNat_bits_function (id : FunctionId) (after : Bool) :
    (function id after).bits.toNat = 0x1000000000000000 * functionTag after + id.number.toNat := by
  refine toNat_or_tag id.number ?_
  cases after <;> decide

/-- Numbers with an id below a tag are equal only if both parts are. -/
theorem tag_inj {tag tag' : Nat} {number number' : UInt32}
    (h : 0x1000000000000000 * tag + number.toNat = 0x1000000000000000 * tag' + number'.toNat) :
    tag = tag' ∧ number = number' := by
  have := number.toNat_lt
  have := number'.toNat_lt
  have htag : tag = tag' := by omega
  exact ⟨htag, UInt32.toNat_inj.mp (by omega)⟩

theorem nodeTag_inj {after after' deleted deleted' : Bool}
    (h : nodeTag after deleted = nodeTag after' deleted') :
    after = after' ∧ deleted = deleted' := by
  revert after after' deleted deleted'
  decide

theorem functionTag_inj {after after' : Bool} (h : functionTag after = functionTag after') :
    after = after' := by
  revert after after'
  decide

theorem nodeTag_ne_functionTag (after deleted after' : Bool) :
    nodeTag after deleted ≠ functionTag after' := by
  revert after deleted after'
  decide

/-- The key of a node gives back the node, the side of the operation and whether it is for a
deletion. -/
theorem node_inj {id id' : NodeId} {after after' deleted deleted' : Bool} :
    node id after deleted = node id' after' deleted' ↔
      id = id' ∧ after = after' ∧ deleted = deleted' := by
  constructor
  · intro h
    have hbits := congrArg (fun key : RouteKey => key.bits.toNat) h
    simp only [toNat_bits_node] at hbits
    obtain ⟨htag, hnumber⟩ := tag_inj hbits
    obtain ⟨ha, hd⟩ := nodeTag_inj htag
    cases id
    cases id'
    exact ⟨congrArg NodeId.mk hnumber, ha, hd⟩
  · rintro ⟨rfl, rfl, rfl⟩
    rfl

/-- The key of a function gives back the function and the side of the call. -/
theorem function_inj {id id' : FunctionId} {after after' : Bool} :
    function id after = function id' after' ↔ id = id' ∧ after = after' := by
  constructor
  · intro h
    have hbits := congrArg (fun key : RouteKey => key.bits.toNat) h
    simp only [toNat_bits_function] at hbits
    obtain ⟨htag, hnumber⟩ := tag_inj hbits
    cases id
    cases id'
    exact ⟨congrArg FunctionId.mk hnumber, functionTag_inj htag⟩
  · rintro ⟨rfl, rfl⟩
    rfl

/-- A node and a function never share a key, whatever their numbers. -/
theorem node_ne_function (id : NodeId) (after deleted : Bool) (id' : FunctionId)
    (after' : Bool) : node id after deleted ≠ function id' after' := by
  intro h
  have hbits := congrArg (fun key : RouteKey => key.bits.toNat) h
  simp only [toNat_bits_node, toNat_bits_function] at hbits
  exact nodeTag_ne_functionTag after deleted after' (tag_inj hbits).1

end RouteKey

/-! ## Calls of the engine -/

/-- Where the engine makes a call. -/
inductive CallSite
  | node (node : NodeId)
  | function (function : FunctionId)
deriving DecidableEq

namespace EngineCall

/-- Insertions and queries are made at a node, events and calls at a function. -/
def site : EngineCall → CallSite
  | insertPre n _ _ | insertPost n _ _ | queryPre n _ | queryPost n _ _ => .node n
  | callPre f _ | callPost f _ _ | eventPre f _ | eventPost f _ => .function f

/-- The call is made after the operation. -/
def isPost : EngineCall → Bool
  | insertPost .. | queryPost .. | callPost .. | eventPost .. => true
  | insertPre .. | queryPre .. | callPre .. | eventPre .. => false

/-- The deleted flag; only insertions have one. -/
def deleted : EngineCall → Bool
  | insertPre _ _ deleted | insertPost _ _ deleted => deleted
  | _ => false

/-- The call with its succeeded flag set anew, if it has one. -/
def withSucceeded (succeeded : Bool) : EngineCall → EngineCall
  | queryPost n args _ => queryPost n args succeeded
  | callPost f args _ => callPost f args succeeded
  | call => call

theorem key_eq (call : EngineCall) :
    call.key = match call.site with
      | .node n => .node n call.isPost call.deleted
      | .function f => .function f call.isPost := by
  cases call <;> rfl

/-- A call fires the key of a node exactly if it is made there, on that side and for that
purpose. -/
theorem node_eq_key_iff {call : EngineCall} {n : NodeId} {after deleted : Bool} :
    RouteKey.node n after deleted = call.key ↔
      call.site = .node n ∧ after = call.isPost ∧ deleted = call.deleted := by
  rw [call.key_eq]
  cases call.site with
  | node m =>
    simp only [RouteKey.node_inj, CallSite.node.injEq]
    rw [eq_comm (a := n)]
  | function f =>
    constructor
    · intro h
      exact absurd h (RouteKey.node_ne_function _ _ _ _ _)
    · rintro ⟨h, _⟩
      cases h

/-- A call fires the key of a function exactly if it is made there and on that side. -/
theorem function_eq_key_iff {call : EngineCall} {f : FunctionId} {after : Bool} :
    RouteKey.function f after = call.key ↔ call.site = .function f ∧ after = call.isPost := by
  rw [call.key_eq]
  cases call.site with
  | node n =>
    constructor
    · intro h
      exact absurd h.symm (RouteKey.node_ne_function _ _ _ _ _)
    · rintro ⟨h, _⟩
      cases h
  | function g =>
    simp only [RouteKey.function_inj, CallSite.function.injEq]
    rw [eq_comm (a := f)]

theorem key_withSucceeded (call : EngineCall) (succeeded : Bool) :
    (call.withSucceeded succeeded).key = call.key := by
  cases call <;> rfl

theorem arguments_withSucceeded (call : EngineCall) (succeeded : Bool) :
    (call.withSucceeded succeeded).arguments = call.arguments := by
  cases call <;> rfl

end EngineCall

/-! ## Symbols -/

namespace Phase

theorem isAfter_eq_iff {phase : Phase} {post : Bool} :
    phase.isAfter = post ↔ (post = true ↔ phase = .after ∨ phase = .afterDelete) := by
  cases phase <;> cases post <;> decide

theorem isDelete_eq_iff {phase : Phase} {deleted : Bool} :
    phase.isDelete = deleted ↔ (deleted = true ↔ phase = .beforeDelete ∨ phase = .afterDelete) := by
  cases phase <;> cases deleted <;> decide

theorem isAfter_eq_iff_of_not_isDelete {phase : Phase} (h : phase.isDelete = false) {post : Bool} :
    phase.isAfter = post ↔ phase = .before ∧ post = false ∨ phase = .after ∧ post = true := by
  cases phase with
  | before | after => cases post <;> decide
  | beforeDelete | afterDelete => cases h

end Phase

namespace Symbol

/-- A subscription to an event or a call asks for its function, on the side of its phase. -/
def AsksFunction (symbol : Symbol) (phase : Phase) (call : EngineCall) : Prop :=
  (symbol.kind = .event ∨ symbol.kind = .call) ∧ call.site = .function symbol.function ∧
    (phase = .before ∧ call.isPost = false ∨ phase = .after ∧ call.isPost = true)

/-- A subscription to anything else asks for the node behind it, on the side of its phase, for a
deletion or not. -/
def AsksNode (symbol : Symbol) (phase : Phase) (call : EngineCall) : Prop :=
  (symbol.kind ≠ .event ∧ symbol.kind ≠ .call) ∧
    ∃ node, symbol.node = some node ∧ call.site = .node node ∧
      (call.isPost = true ↔ phase = .after ∨ phase = .afterDelete) ∧
      (call.deleted = true ↔ phase = .beforeDelete ∨ phase = .afterDelete)

theorem isCallBoundary_iff (kind : SymbolKind) :
    kind.isCallBoundary = true ↔ kind = .event ∨ kind = .call := by
  cases kind <;> decide

/-- How a symbol can come by a key. -/
theorem routeKey_eq_ok {symbol : Symbol} {phase : Phase} {key : RouteKey}
    (h : symbol.routeKey phase = .ok key) :
    ((symbol.kind = .event ∨ symbol.kind = .call) ∧ phase.isDelete = false ∧
      key = .function symbol.function phase.isAfter) ∨
    ((symbol.kind ≠ .event ∧ symbol.kind ≠ .call) ∧
      ∃ node, symbol.node = some node ∧ key = .node node phase.isAfter phase.isDelete) := by
  unfold routeKey at h
  split at h
  · cases h
  split at h
  · next hb =>
    refine Or.inl ⟨(isCallBoundary_iff _).mp hb, ?_⟩
    unfold RouteKey.ofFunction? at h
    cases hd : phase.isDelete with
    | true =>
      rw [hd] at h
      cases h
    | false =>
      rw [hd] at h
      cases h
      exact ⟨rfl, rfl⟩
  · next hb =>
    refine Or.inr ⟨not_or.mp (mt (isCallBoundary_iff _).mpr hb), ?_⟩
    split at h
    · next node hn =>
      cases h
      exact ⟨node, hn, rfl⟩
    · cases h

/-- A subscription and a call meet at a key exactly if the call is one that the phase of the
subscription asks for. -/
theorem routeKey_eq_key_iff {symbol : Symbol} {phase : Phase} {key : RouteKey}
    (h : symbol.routeKey phase = .ok key) (call : EngineCall) :
    key = call.key ↔ symbol.AsksFunction phase call ∨ symbol.AsksNode phase call := by
  rcases routeKey_eq_ok h with ⟨hkind, hd, rfl⟩ | ⟨hkind, node, hn, rfl⟩
  · rw [EngineCall.function_eq_key_iff, Phase.isAfter_eq_iff_of_not_isDelete hd]
    constructor
    · intro hcall
      exact Or.inl ⟨hkind, hcall⟩
    · rintro (⟨_, hcall⟩ | ⟨hother, _⟩)
      · exact hcall
      · exact absurd hkind (not_or.mpr hother)
  · rw [EngineCall.node_eq_key_iff, Phase.isAfter_eq_iff, Phase.isDelete_eq_iff]
    constructor
    · intro hcall
      exact Or.inr ⟨hkind, node, hn, hcall⟩
    · rintro (⟨hother, _⟩ | ⟨_, node', hn', hcall⟩)
      · exact absurd hother (not_or.mpr hkind)
      · cases hn.symm.trans hn'
        exact hcall

end Symbol

end StoryHooks
