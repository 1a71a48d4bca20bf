import StoryHooks.Proofs.Keys
import StoryHooks.Subscription.Roster

/-!
# What can be hooked

Whether a subscription has a key depends on the kind of symbol that its name stands for and on its
phase:

| kind | before, after | before or after a deletion |
|---|---|---|
| event, call | the function's key | refused |
| query, database, proc, derived query | the node's key, if there is a node | the same |
| other | refused | refused |

A derived query stands for whatever symbol goes by its name with the suffix. That symbol is taken as
it is, even if it is a derived query itself.

Results:
1. `find_eq_some_iff`, `find_eq_none_iff`: which symbol a name stands for, and when there is none.
2. `routeKey_eq_iff`: the table decides what key a symbol has, and why it has none.
3. `resolve_follows_matrix`: so the table decides every subscription, and each refusal.
-/

namespace StoryHooks

/-! ## The symbol behind a name -/

namespace SymbolTable

/-- `symbols.Denotes suffix name arity symbol`: the name stands for the symbol.

* `plain`: the symbol goes by the name, and is no derived query.
* `derived`: a derived query goes by the name, and the symbol by the name with the suffix. -/
inductive Denotes (symbols : SymbolTable) (suffix name : String) (arity : UInt32) : Symbol → Prop
  | plain {symbol : Symbol} : symbols.lookup name arity = some symbol →
      symbol.kind ≠ .derivedQuery → Denotes symbols suffix name arity symbol
  | derived {query symbol : Symbol} : symbols.lookup name arity = some query →
      query.kind = .derivedQuery → symbols.lookup (name ++ suffix) arity = some symbol →
      Denotes symbols suffix name arity symbol

/-- No symbol goes by the name, or a derived query does and none goes by the name with the
suffix. -/
def Lacks (symbols : SymbolTable) (suffix name : String) (arity : UInt32) : Prop :=
  symbols.lookup name arity = none ∨
    ∃ query, symbols.lookup name arity = some query ∧ query.kind = .derivedQuery ∧
      symbols.lookup (name ++ suffix) arity = none

section Find
variable {symbols : SymbolTable} {suffix name : String} {arity : UInt32}

theorem find_of_plain {symbol : Symbol} (h : symbols.lookup name arity = some symbol)
    (hk : symbol.kind ≠ .derivedQuery) : symbols.find suffix name arity = some symbol := by
  simp only [find, h, if_neg hk]

theorem find_of_derived {query : Symbol} (h : symbols.lookup name arity = some query)
    (hk : query.kind = .derivedQuery) :
    symbols.find suffix name arity = symbols.lookup (name ++ suffix) arity := by
  simp only [find, h, if_pos hk]

theorem find_eq_some_iff {symbol : Symbol} :
    symbols.find suffix name arity = some symbol ↔ symbols.Denotes suffix name arity symbol := by
  constructor
  · intro h
    unfold find at h
    split at h
    · cases h
    · next found hfound =>
      split at h
      · next hk => exact .derived hfound hk h
      · next hk => cases h; exact .plain hfound hk
  · rintro (⟨hfound, hk⟩ | ⟨hfound, hk, hsymbol⟩)
    · exact find_of_plain hfound hk
    · rw [find_of_derived hfound hk, hsymbol]

theorem find_eq_none_iff :
    symbols.find suffix name arity = none ↔ symbols.Lacks suffix name arity := by
  constructor
  · intro h
    unfold find at h
    split at h
    · next hnone => exact .inl hnone
    · next found hfound =>
      split at h
      · next hk => exact .inr ⟨found, hfound, hk, h⟩
      · cases h
  · rintro (hnone | ⟨query, hfound, hk, hnone⟩)
    · simp only [find, hnone]
    · rw [find_of_derived hfound hk, hnone]

/-- A name stands for one symbol, or the story lacks it. -/
theorem denotes_or_lacks (symbols : SymbolTable) (suffix name : String) (arity : UInt32) :
    (∃ symbol, symbols.Denotes suffix name arity symbol) ∨ symbols.Lacks suffix name arity := by
  cases h : symbols.find suffix name arity with
  | some symbol => exact .inl ⟨symbol, find_eq_some_iff.mp h⟩
  | none => exact .inr (find_eq_none_iff.mp h)

theorem Denotes.unique {symbol symbol' : Symbol} (h : symbols.Denotes suffix name arity symbol)
    (h' : symbols.Denotes suffix name arity symbol') : symbol' = symbol :=
  Option.some.inj ((find_eq_some_iff.mpr h').symm.trans (find_eq_some_iff.mpr h))

/-- No more than two entries of the table are looked at. -/
theorem find_congr {symbols' : SymbolTable}
    (hname : symbols'.lookup name arity = symbols.lookup name arity)
    (hsuffixed : symbols'.lookup (name ++ suffix) arity = symbols.lookup (name ++ suffix) arity) :
    symbols'.find suffix name arity = symbols.find suffix name arity := by
  simp only [find, hname, hsuffixed]

end Find

end SymbolTable

/-! ## The table -/

namespace Symbol

variable {symbol : Symbol} {phase : Phase} {result : Except Refusal RouteKey}

/-- The symbol is hooked where it is called. -/
def IsCalled (symbol : Symbol) : Prop := symbol.kind = .event ∨ symbol.kind = .call

theorem isHookable_iff (kind : SymbolKind) : kind.isHookable = true ↔ kind ≠ .other := by
  cases kind <;> decide

/-- `symbol.Row phase result`: what the table says of the symbol at the phase.

* `before`, `after`, `deleted`: it is hooked where it is called. A node makes no difference.
* `node`, `nodeless`: it is hooked at its node, if it has one.
* `other`: it cannot be hooked. -/
inductive Row (symbol : Symbol) : Phase → Except Refusal RouteKey → Prop
  | before : symbol.IsCalled → Row symbol .before (.ok (.function symbol.function false))
  | after : symbol.IsCalled → Row symbol .after (.ok (.function symbol.function true))
  | deleted {phase : Phase} : symbol.IsCalled → phase.isDelete = true →
      Row symbol phase (.error .deleteTriggerUnsupported)
  | node {phase : Phase} {node : NodeId} : ¬ symbol.IsCalled → symbol.kind ≠ .other →
      symbol.node = some node → Row symbol phase (.ok (.ofNode node phase))
  | nodeless {phase : Phase} : ¬ symbol.IsCalled → symbol.node = none →
      Row symbol phase (.error .notHookable)
  | other {phase : Phase} : symbol.kind = .other → Row symbol phase (.error .notHookable)

/-- Every symbol has a row at every phase. -/
theorem exists_row (symbol : Symbol) (phase : Phase) : ∃ result, symbol.Row phase result := by
  by_cases hc : symbol.IsCalled
  · cases phase with
    | before => exact ⟨_, .before hc⟩
    | after => exact ⟨_, .after hc⟩
    | beforeDelete | afterDelete => exact ⟨_, .deleted hc rfl⟩
  · by_cases hk : symbol.kind = .other
    · exact ⟨_, .other hk⟩
    · cases hn : symbol.node with
      | none => exact ⟨_, .nodeless hc hn⟩
      | some node => exact ⟨_, .node hc hk hn⟩

theorem routeKey_of_called (h : symbol.IsCalled) (phase : Phase) :
    symbol.routeKey phase =
      if phase.isDelete then .error .deleteTriggerUnsupported
      else .ok (.function symbol.function phase.isAfter) := by
  have hkind : symbol.kind.isHookable = true := by
    rcases h with h | h <;> rw [h] <;> rfl
  rw [routeKey, if_neg (fun hnot => hnot hkind), if_pos ((isCallBoundary_iff _).mpr h)]
  cases phase <;> rfl

theorem routeKey_of_other (h : symbol.kind = .other) (phase : Phase) :
    symbol.routeKey phase = .error .notHookable := by
  rw [routeKey, if_pos]
  rw [h]
  exact nofun

theorem routeKey_of_node (h : ¬ symbol.IsCalled) (hk : symbol.kind ≠ .other) {node : NodeId}
    (hn : symbol.node = some node) (phase : Phase) :
    symbol.routeKey phase = .ok (.ofNode node phase) := by
  rw [routeKey, if_neg (fun hnot => hnot ((isHookable_iff _).mpr hk)),
    if_neg (mt (isCallBoundary_iff _).mp h), hn]

theorem routeKey_of_nodeless (h : ¬ symbol.IsCalled) (hn : symbol.node = none) (phase : Phase) :
    symbol.routeKey phase = .error .notHookable := by
  by_cases hk : symbol.kind = .other
  · exact routeKey_of_other hk phase
  · rw [routeKey, if_neg (fun hnot => hnot ((isHookable_iff _).mpr hk)),
      if_neg (mt (isCallBoundary_iff _).mp h), hn]

theorem routeKey_of_row (h : symbol.Row phase result) : symbol.routeKey phase = result := by
  cases h with
  | before hc | after hc => exact routeKey_of_called hc _
  | deleted hc hd => rw [routeKey_of_called hc, if_pos hd]
  | node hc hk hn => exact routeKey_of_node hc hk hn phase
  | nodeless hc hn => exact routeKey_of_nodeless hc hn phase
  | other hk => exact routeKey_of_other hk phase

/-- A symbol has the key, or is refused for the reason, that its row says. -/
theorem routeKey_eq_iff : symbol.routeKey phase = result ↔ symbol.Row phase result := by
  constructor
  · intro h
    obtain ⟨result', hrow⟩ := symbol.exists_row phase
    rwa [← h, routeKey_of_row hrow]
  · exact routeKey_of_row

theorem not_row_symbolNotFound : ¬ symbol.Row phase (.error .symbolNotFound) := nofun

/-! What the rows with one result come to. -/

theorem row_notHookable_iff :
    symbol.Row phase (.error .notHookable) ↔
      symbol.kind = .other ∨ ¬ symbol.IsCalled ∧ symbol.node = none := by
  constructor
  · intro h
    cases h with
    | nodeless hc hn => exact .inr ⟨hc, hn⟩
    | other hk => exact .inl hk
  · rintro (hk | ⟨hc, hn⟩)
    · exact .other hk
    · exact .nodeless hc hn

theorem row_deleteTriggerUnsupported_iff :
    symbol.Row phase (.error .deleteTriggerUnsupported) ↔
      symbol.IsCalled ∧ (phase = .beforeDelete ∨ phase = .afterDelete) := by
  have hdelete : phase.isDelete = true ↔ phase = .beforeDelete ∨ phase = .afterDelete := by
    cases phase <;> decide
  constructor
  · intro h
    cases h with
    | deleted hc hd => exact ⟨hc, hdelete.mp hd⟩
  · rintro ⟨hc, hd⟩
    exact .deleted hc (hdelete.mpr hd)

theorem row_ok_iff {key : RouteKey} :
    symbol.Row phase (.ok key) ↔
      (symbol.IsCalled ∧ (phase = .before ∧ key = .function symbol.function false ∨
        phase = .after ∧ key = .function symbol.function true)) ∨
      (¬ symbol.IsCalled ∧ symbol.kind ≠ .other ∧
        ∃ node, symbol.node = some node ∧ key = .ofNode node phase) := by
  constructor
  · intro h
    cases h with
    | before hc => exact .inl ⟨hc, .inl ⟨rfl, rfl⟩⟩
    | after hc => exact .inl ⟨hc, .inr ⟨rfl, rfl⟩⟩
    | node hc hk hn => exact .inr ⟨hc, hk, _, hn, rfl⟩
  · rintro (⟨hc, ⟨rfl, rfl⟩ | ⟨rfl, rfl⟩⟩ | ⟨hc, hk, node, hn, rfl⟩)
    · exact .before hc
    · exact .after hc
    · exact .node hc hk hn

end Symbol

/-! ## Subscriptions -/

namespace Signature

variable {signature : Signature} {suffix : String} {symbols : SymbolTable} {symbol : Symbol}

theorem resolve_of_lacks (h : symbols.Lacks suffix signature.name signature.arity) :
    signature.resolve suffix symbols = .error ⟨.symbolNotFound, signature⟩ := by
  simp only [resolve, SymbolTable.find_eq_none_iff.mpr h]

section Denotes
variable (h : symbols.Denotes suffix signature.name signature.arity symbol)
include h

theorem resolve_of_key {key : RouteKey} (hrow : symbol.Row signature.phase (.ok key)) :
    signature.resolve suffix symbols = .ok key := by
  simp only [resolve, SymbolTable.find_eq_some_iff.mpr h, Symbol.routeKey_of_row hrow]

theorem resolve_of_refusal {refusal : Refusal}
    (hrow : symbol.Row signature.phase (.error refusal)) :
    signature.resolve suffix symbols = .error ⟨refusal, signature⟩ := by
  simp only [resolve, SymbolTable.find_eq_some_iff.mpr h, Symbol.routeKey_of_row hrow]

end Denotes

/-- What resolving a subscription can come to. -/
theorem resolve_cases (signature : Signature) (suffix : String) (symbols : SymbolTable) :
    (symbols.Lacks suffix signature.name signature.arity ∧
      signature.resolve suffix symbols = .error ⟨.symbolNotFound, signature⟩) ∨
    ∃ symbol, symbols.Denotes suffix signature.name signature.arity symbol ∧
      ((∃ key, symbol.Row signature.phase (.ok key) ∧
        signature.resolve suffix symbols = .ok key) ∨
      ∃ refusal, symbol.Row signature.phase (.error refusal) ∧
        signature.resolve suffix symbols = .error ⟨refusal, signature⟩) := by
  rcases symbols.denotes_or_lacks suffix signature.name signature.arity with ⟨symbol, hd⟩ | hl
  · refine .inr ⟨symbol, hd, ?_⟩
    obtain ⟨key | refusal, hrow⟩ := symbol.exists_row signature.phase
    · exact .inr ⟨_, hrow, resolve_of_refusal hd hrow⟩
    · exact .inl ⟨_, hrow, resolve_of_key hd hrow⟩
  · exact .inl ⟨hl, resolve_of_lacks hl⟩

theorem resolve_eq_ok_iff {key : RouteKey} :
    signature.resolve suffix symbols = .ok key ↔
      ∃ symbol, symbols.Denotes suffix signature.name signature.arity symbol ∧
        symbol.Row signature.phase (.ok key) := by
  constructor
  · intro h
    rcases signature.resolve_cases suffix symbols with
      ⟨_, hr⟩ | ⟨symbol, hd, ⟨key', hrow, hr⟩ | ⟨_, _, hr⟩⟩
    · cases h.symm.trans hr
    · cases h.symm.trans hr
      exact ⟨symbol, hd, hrow⟩
    · cases h.symm.trans hr
  · rintro ⟨symbol, hd, hrow⟩
    exact resolve_of_key hd hrow

/-- A refusal is about the subscription as it was made, and has one of four reasons. -/
theorem resolve_eq_error_iff {e : ResolveError} :
    signature.resolve suffix symbols = .error e ↔ e.signature = signature ∧
      (e.refusal = .symbolNotFound ∧ symbols.Lacks suffix signature.name signature.arity ∨
      ∃ symbol, symbols.Denotes suffix signature.name signature.arity symbol ∧
        symbol.Row signature.phase (.error e.refusal)) := by
  constructor
  · intro h
    rcases signature.resolve_cases suffix symbols with
      ⟨hl, hr⟩ | ⟨symbol, hd, ⟨_, _, hr⟩ | ⟨refusal, hrow, hr⟩⟩
    · cases h.symm.trans hr
      exact ⟨rfl, .inl ⟨rfl, hl⟩⟩
    · cases h.symm.trans hr
    · cases h.symm.trans hr
      exact ⟨rfl, .inr ⟨symbol, hd, hrow⟩⟩
  · obtain ⟨refusal, subject⟩ := e
    rintro ⟨rfl, ⟨rfl, hl⟩ | ⟨symbol, hd, hrow⟩⟩
    · exact resolve_of_lacks hl
    · exact resolve_of_refusal hd hrow

/-- Stories that agree on the name and on the name with the suffix treat a subscription alike. -/
theorem resolve_congr {symbols' : SymbolTable}
    (hname : symbols'.lookup signature.name signature.arity =
      symbols.lookup signature.name signature.arity)
    (hsuffixed : symbols'.lookup (signature.name ++ suffix) signature.arity =
      symbols.lookup (signature.name ++ suffix) signature.arity) :
    signature.resolve suffix symbols' = signature.resolve suffix symbols := by
  simp only [resolve, SymbolTable.find_congr hname hsuffixed]

end Signature

namespace Roster

/-- Whatever the story, the suffix, the name, the arity and the phase. A subscription is refused

* for want of a symbol exactly if the story has none by its name, or has a derived query there and
  none by the name with the suffix;
* as not hookable exactly if its name stands for a symbol of another kind, or for one that is
  neither event nor call and has no node;
* as a deletion exactly if its name stands for an event or a call and its phase is one of a
  deletion.

Otherwise it has a key: that of the function of an event or a call, or that of the node of anything
else, at its phase. A refusal is about the name as it was given, and says so. A name stands for one
symbol at most, and two stories that agree on the name and on the name with the suffix treat the
subscription alike. -/
theorem resolve_follows_matrix (r : Roster) (symbols : SymbolTable) (s : Signature) :
    let answer := r.resolve symbols s
    let Found := symbols.Denotes r.suffix s.name s.arity
    (answer = .error ⟨.symbolNotFound, s⟩ ↔
      symbols.lookup s.name s.arity = none ∨
      ∃ query, symbols.lookup s.name s.arity = some query ∧ query.kind = .derivedQuery ∧
        symbols.lookup (s.name ++ r.suffix) s.arity = none) ∧
    (answer = .error ⟨.notHookable, s⟩ ↔ ∃ d, Found d ∧
      (d.kind = .other ∨ (d.kind ≠ .event ∧ d.kind ≠ .call) ∧ d.node = none)) ∧
    (answer = .error ⟨.deleteTriggerUnsupported, s⟩ ↔ ∃ d, Found d ∧
      (d.kind = .event ∨ d.kind = .call) ∧ (s.phase = .beforeDelete ∨ s.phase = .afterDelete)) ∧
    (∀ key, answer = .ok key ↔ ∃ d, Found d ∧
      ((d.kind = .event ∨ d.kind = .call) ∧ (s.phase = .before ∧ key = .function d.function false ∨
        s.phase = .after ∧ key = .function d.function true) ∨
      (d.kind ≠ .event ∧ d.kind ≠ .call) ∧ d.kind ≠ .other ∧
        ∃ node, d.node = some node ∧ key = .ofNode node s.phase)) ∧
    (∀ e, answer = .error e → e.signature = s ∧ ∃ reason, e.message =
      "Couldn't register Osiris subscriber for " ++ (s.name ++ "/" ++ toString s.arity.toNat) ++
        ": " ++ reason) ∧
    (∀ d d', Found d → Found d' → d' = d) ∧
    ∀ symbols' : SymbolTable,
      symbols'.lookup s.name s.arity = symbols.lookup s.name s.arity →
      symbols'.lookup (s.name ++ r.suffix) s.arity =
        symbols.lookup (s.name ++ r.suffix) s.arity →
      r.resolve symbols' s = answer := by
  intro answer Found
  refine ⟨?_, ?_, ?_, ?_, ?_, fun _ _ hd hd' => hd.unique hd', ?_⟩
  · refine Signature.resolve_eq_error_iff.trans ?_
    simp [Symbol.not_row_symbolNotFound, SymbolTable.Lacks]
  · refine Signature.resolve_eq_error_iff.trans ?_
    simp [Found, Symbol.row_notHookable_iff, Symbol.IsCalled]
  · refine Signature.resolve_eq_error_iff.trans ?_
    simp [Found, Symbol.row_deleteTriggerUnsupported_iff, Symbol.IsCalled]
  · intro key
    refine Signature.resolve_eq_ok_iff.trans ?_
    simp only [Found, Symbol.row_ok_iff, Symbol.IsCalled, not_or, ne_eq]
  · intro e h
    obtain ⟨hsignature, _⟩ := Signature.resolve_eq_error_iff.mp h
    exact ⟨hsignature, hsignature ▸ ⟨_, rfl⟩⟩
  · intro symbols' hname hsuffixed
    exact Signature.resolve_congr hname hsuffixed

/-- A story with a derived query, behind which there is an event that has a node. -/
def asking : SymbolTable :=
  (SymbolTable.empty.define "Ask" 2 ⟨.derivedQuery, ⟨3⟩, some ⟨5⟩⟩).define "Ask__DEF__" 2
    ⟨.event, ⟨7⟩, some ⟨12⟩⟩

/-- The query has the key of the event's function, no key for a deletion, and the refusal names the
query. Another symbol in the story makes no difference. -/
theorem asking_resolves_to_event :
    let r := Roster.empty "__DEF__"
    let refused : ResolveError := ⟨.deleteTriggerUnsupported, ⟨"Ask", 2, .afterDelete⟩⟩
    r.resolve asking ⟨"Ask", 2, .after⟩ = .ok (.function ⟨7⟩ true) ∧
    r.resolve asking ⟨"Ask", 2, .afterDelete⟩ = .error refused ∧
    (∃ reason, refused.message = "Couldn't register Osiris subscriber for Ask/2: " ++ reason) ∧
    (∀ d, asking.Denotes "__DEF__" "Ask" 2 d → d = ⟨.event, ⟨7⟩, some ⟨12⟩⟩) ∧
    r.resolve (asking.define "Ask" 3 ⟨.other, ⟨9⟩, none⟩) ⟨"Ask", 2, .after⟩ =
      .ok (.function ⟨7⟩ true) := by
  have hquery : asking.lookup "Ask" 2 = some ⟨.derivedQuery, ⟨3⟩, some ⟨5⟩⟩ := by decide +kernel
  have hfound : asking.Denotes "__DEF__" "Ask" 2 ⟨.event, ⟨7⟩, some ⟨12⟩⟩ :=
    .derived hquery rfl (by decide +kernel)
  obtain ⟨-, -, -, hkey, -, hunique, hagree⟩ :=
    resolve_follows_matrix (.empty "__DEF__") asking ⟨"Ask", 2, .after⟩
  obtain ⟨-, -, hdeleted, -, herror, -⟩ :=
    resolve_follows_matrix (.empty "__DEF__") asking ⟨"Ask", 2, .afterDelete⟩
  have hevent := (hkey _).mpr ⟨_, hfound, .inl ⟨.inl rfl, .inr ⟨rfl, rfl⟩⟩⟩
  have hrefused := hdeleted.mpr ⟨_, hfound, .inl rfl, .inr rfl⟩
  exact ⟨hevent, hrefused, (herror _ hrefused).2, fun d hd => hunique _ d hfound hd,
    (hagree _ (by decide +kernel) (by decide +kernel)).trans hevent⟩

end Roster

end StoryHooks
