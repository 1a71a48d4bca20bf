import Mathlib.Data.List.Nodup
import StoryHooks.Proofs.Arena

/-!
# What a load accounts for

A load routes every subscription anew and reports how that went. Routes that stood before leave no
trace in either: a subscription is routed once or reported once, whatever it was routed to earlier
and however often.

Results:
1. `Roster.reload_snd`: the report counts the ids that get a key and lists the others, in order,
   each with the error of its resolution.
2. `Roster.reload_reload`: a load after another is as if the other had not been made.
3. `Roster.reload_accounts`: the routes and the report of a load, taken together.
-/

namespace StoryHooks.Roster

/-! ## The report -/

theorem routeEach_snd (symbols : SymbolTable) (ids : List SubscriptionId) (r : Roster)
    (report : ResolutionReport) :
    (routeEach symbols ids (r, report)).2 =
      ⟨report.registered + (ids.filter fun id => (r.keyOf? symbols id).isSome).length,
        report.rejected ++
          ids.filterMap fun id => (r.refusal? symbols id).map fun e => (id, e)⟩ := by
  induction ids generalizing r report with
  | nil => simp [routeEach]
  | cons id ids ih =>
    rw [routeEach_cons, ih]
    simp only [keyOf?_withRoute, refusal?_withRoute, noting]
    cases hkey : r.keyOf? symbols id <;> cases hrefusal : r.refusal? symbols id <;>
      simp [hkey, hrefusal, Nat.add_assoc, Nat.add_comm 1]

section
variable (r : Roster) (symbols : SymbolTable)

/-- The report of a load counts the ids that get a key and lists the others, in order, each with the
error of its resolution. -/
theorem reload_snd :
    (r.reload symbols).2 =
      ⟨((List.range r.size).filter fun id => (r.keyOf? symbols id).isSome).length,
        (List.range r.size).filterMap fun id =>
          (r.refusal? symbols id).map fun e => (id, e)⟩ := by
  have h := routeEach_snd symbols (List.range r.size) r.unrouted ⟨0, []⟩
  rw [Nat.zero_add, List.nil_append] at h
  exact h

theorem mem_rejected_reload {id : SubscriptionId} {e : ResolveError} :
    (id, e) ∈ (r.reload symbols).2.rejected ↔ r.refusal? symbols id = some e := by
  rw [reload_snd, List.mem_filterMap]
  constructor
  · rintro ⟨id', -, h⟩
    obtain ⟨e', he', hpair⟩ := Option.map_eq_some_iff.mp h
    cases hpair
    exact he'
  · intro h
    obtain ⟨signature, hs, -⟩ := refusal?_eq_some_iff.mp h
    exact ⟨id, List.mem_range.mpr (signature?_lt hs), by rw [h, Option.map_some]⟩

/-- The ids that a report lists are those without a key. -/
theorem rejected_ids_reload :
    (r.reload symbols).2.rejected.map Prod.fst =
      (List.range r.size).filter fun id => !(r.keyOf? symbols id).isSome := by
  rw [reload_snd, List.map_filterMap, ← List.filterMap_eq_filter]
  refine List.filterMap_congr fun id hid => ?_
  have hrefusal : (r.refusal? symbols id).isSome = !(r.keyOf? symbols id).isSome :=
    isSome_refusal? (List.mem_range.mp hid)
  cases he : r.refusal? symbols id <;> simp_all [Option.guard]

/-! ## Routes that stood before -/

/-- A load after another is as if the other had not been made. -/
theorem reload_reload (symbols' : SymbolTable) :
    (r.reload symbols).1.reload symbols' = r.reload symbols' := by
  conv_lhs => rw [reload, size_reload, unrouted_reload]
  rfl

end

theorem byKey_withRoute (r : Roster) (key : Option RouteKey) (id : SubscriptionId) :
    (r.withRoute key id).byKey = key.elim r.byKey fun key => r.byKey.push key id := by
  cases key <;> rfl

/-- The routes that are added depend on the subscribers and the suffix alone. -/
theorem byKey_withRoutes_congr {r r' : Roster} (hs : r'.subscribers = r.subscribers)
    (hx : r'.suffix = r.suffix) (hk : r'.byKey = r.byKey) (symbols : SymbolTable)
    (ids : List SubscriptionId) :
    (r'.withRoutes symbols ids).byKey = (r.withRoutes symbols ids).byKey := by
  induction ids using List.reverseRecOn with
  | nil => exact hk
  | append_singleton ids id ih =>
    rw [withRoutes_concat, withRoutes_concat, byKey_withRoute, byKey_withRoute, ih,
      keyOf?_congr hs hx]

/-- The routes and the report of a load depend on the subscribers and the suffix alone. -/
theorem reload_congr {r r' : Roster} (hs : r'.subscribers = r.subscribers)
    (hx : r'.suffix = r.suffix) (symbols : SymbolTable) :
    (r'.reload symbols).1.byKey = (r.reload symbols).1.byKey ∧
      (r'.reload symbols).2 = (r.reload symbols).2 := by
  have hsize : r'.size = r.size := congrArg List.length hs
  constructor
  · rw [reload_fst, reload_fst, hsize]
    have hunrouted : r'.unrouted.subscribers = r.unrouted.subscribers := hs
    exact byKey_withRoutes_congr hunrouted hx rfl symbols _
  · simp only [reload_snd, hsize, keyOf?_congr hs hx, refusal?_congr hs hx]

/-! ## The account -/

/-- Of the numbers below a bound, those that are kept stand in the list once. -/
theorem count_filter_range {n id : Nat} (h : id < n) (keep : Nat → Bool) :
    ((List.range n).filter keep).count id = (keep id).toNat := by
  have hmem : id ∈ (List.range n).filter keep ↔ keep id = true := by
    rw [List.mem_filter, List.mem_range, and_iff_right h]
  cases hk : keep id with
  | false =>
    rw [hk] at hmem
    exact List.count_eq_zero.mpr fun hid => nomatch hmem.mp hid
  | true =>
    exact List.count_eq_one_of_mem (List.nodup_range.filter keep) (hmem.mpr hk)

/-- A load accounts for every subscription, whatever stood in the routes before:

* the routes and the report depend on the subscribers and the suffix alone;
* an id is routed to a key if its signature resolves to this key, and it is rejected with an error
  if its signature fails with this error; both are listed in the order of the ids;
* an id that was given out is routed or rejected, once, and not both;
* the report counts the routes, which together with the rejected ids are as many as the
  subscriptions;
* a second load changes nothing and reports the same. -/
theorem reload_accounts (r : Roster) (symbols : SymbolTable) :
    let loaded := (r.reload symbols).1
    let report := (r.reload symbols).2
    let refused := report.rejected.map Prod.fst
    (∀ r' : Roster, r'.subscribers = r.subscribers → r'.suffix = r.suffix →
      (r'.reload symbols).1.byKey = loaded.byKey ∧ (r'.reload symbols).2 = report) ∧
    (∀ id key, id ∈ loaded.handlersFor key ↔
      ∃ signature, r.signature? id = some signature ∧ r.resolve symbols signature = .ok key) ∧
    (∀ id e, (id, e) ∈ report.rejected ↔
      ∃ signature, r.signature? id = some signature ∧ r.resolve symbols signature = .error e) ∧
    (∀ key, (loaded.handlersFor key).Pairwise (· < ·)) ∧
    refused.Pairwise (· < ·) ∧
    (∀ id < r.size,
      (loaded.routedIds.count id = 1 ∧ refused.count id = 0) ∨
      (loaded.routedIds.count id = 0 ∧ refused.count id = 1)) ∧
    report.registered + report.rejected.length = r.size ∧
    loaded.activeRoutes = report.registered ∧
    loaded.reload symbols = r.reload symbols := by
  intro loaded report refused
  -- what is routed and what is refused are the two halves of the ids, by whether there is a key
  have hrouted : loaded.routedIds.Perm _ := routedIds_reload r symbols
  have hrefused : refused = _ := rejected_ids_reload r symbols
  have hregistered : report.registered = _ :=
    congrArg ResolutionReport.registered (reload_snd r symbols)
  refine ⟨fun r' hs hx => reload_congr hs hx symbols, fun id key => ?_, fun id e => ?_,
    fun key => ?_, ?_, fun id hid => ?_, ?_, ?_, reload_reload r symbols symbols⟩
  · rw [handlersFor_reload, List.mem_filter, List.mem_range, decide_eq_true_iff,
      keyOf?_eq_some_iff]
    exact and_iff_right_of_imp fun ⟨_, hs, _⟩ => signature?_lt hs
  · rw [mem_rejected_reload, refusal?_eq_some_iff]
  · rw [handlersFor_reload]
    exact List.pairwise_lt_range.filter _
  · rw [hrefused]
    exact List.pairwise_lt_range.filter _
  · rw [hrouted.count_eq, hrefused, count_filter_range hid, count_filter_range hid]
    cases (r.keyOf? symbols id).isSome with
    | true => exact .inl ⟨rfl, rfl⟩
    | false => exact .inr ⟨rfl, rfl⟩
  · have hlength : report.rejected.length = refused.length := (List.length_map Prod.fst).symm
    have hall := List.length_eq_length_filter_add (l := List.range r.size)
      fun id => (r.keyOf? symbols id).isSome
    rw [List.length_range] at hall
    rw [hlength, hrefused, hregistered, ← hall]
  · rw [← length_routedIds, hrouted.length_eq, hregistered]

/-- Two of three subscriptions are routed late, out of order and one of them twice, and then the
story gives their function another number. A load leaves none of this behind: it routes and reports
as it does where the three subscriptions are all that was ever asked for. -/
theorem load_clears_late_routes :
    let hit : Signature := ⟨"Hit", 1, .before⟩
    let adds : List Request := [.add hit ⟨3⟩, .add ⟨"Miss", 0, .after⟩ ⟨5⟩, .add hit ⟨4⟩]
    let fresh := (Session.start "__DEF__").after adds
    let s := fresh.after
      [.define "Hit" 1 ⟨.event, ⟨7⟩, none⟩, .route 2, .route 0, .route 0,
        .define "Hit" 1 ⟨.event, ⟨9⟩, none⟩]
    s.roster.handlersFor (.function ⟨7⟩ false) = [2, 0, 0] ∧
      (fresh.roster.reload s.symbols).1.byKey = (s.roster.reload s.symbols).1.byKey ∧
      (s.roster.reload s.symbols).2 = ⟨2, [(1, ⟨.symbolNotFound, ⟨"Miss", 0, .after⟩⟩)]⟩ ∧
      (s.roster.reload s.symbols).1.routedIds = [0, 2] ∧
      ((s.roster.reload s.symbols).1.routedIds.count 1 = 1 ∨
        ((s.roster.reload s.symbols).2.rejected.map Prod.fst).count 1 = 1) := by
  intro hit adds fresh s
  obtain ⟨hcongr, -, -, -, -, honce, -, -, -⟩ := reload_accounts s.roster s.symbols
  refine ⟨by decide +kernel, (hcongr fresh.roster (by decide +kernel) (by decide +kernel)).1,
    by decide +kernel, by decide +kernel, ?_⟩
  exact (honce 1 (by decide +kernel)).imp And.left And.right

end StoryHooks.Roster
