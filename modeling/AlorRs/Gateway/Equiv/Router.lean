import AlorRs.Gateway.Router

/-!
# Classification by the router

A message that is accepted by the parser of its kind goes to the channel of that kind alone if
and only if its other fields do not make an earlier parser accept it (`route_eq_iff`).
-/

namespace AlorRs.Gateway

inductive AccountKind where
  | order | stopOrder | trade | position
deriving DecidableEq, Repr

variable (text : RouterText) (data : Json)

def AccountKind.parse (now : ℤ) (value : Json) : AccountKind → Option RouterOutput
  | .order => (parseOrder text now value).map .order
  | .stopOrder => (parseStopOrder text now value).map .stopOrder
  | .trade => (parseTrade text now value).map .trade
  | .position => (parsePosition text now value).map .position

/-! ### The fields that a parser asks for -/

def HasBarTime : Prop :=
  ((data.getFirst ["time", "timestamp"]).bind (toI64 text)).isSome

/-- The number of an order and the identifier of a trade can be read. -/
def HasTradeIds : Prop :=
  ((data.getFirst ["orderno", "orderNo"]).bind (toI64 text)).isSome ∧
    ((data.getFirst ["id", "tradeId"]).bind (toIdText text)).isSome

def HasStopField : Prop :=
  (data.get "stopPrice").isSome ∨ (data.get "triggerPrice").isSome ∨
    (data.get "stopEndUnixTime").isSome

def HasStopId : Prop :=
  ((data.getFirst ["id", "orderId"]).bind (toIdText text)).isSome

def LacksOrderFields : Prop :=
  ∀ name ∈ ["status", "orderId", "id", "price", "side", "type"], data.get name = none

variable {kind : AccountKind}

section Parsers

variable {text : RouterText} {now : ℤ} {value data : Json} {liveCutoffTs : Option ℤ}
  {historyOrigin : DataOrigin}

theorem getFirst_isSome (names : List String) :
    (data.getFirst names).isSome ↔ ∃ name ∈ names, (data.get name).isSome := by
  unfold Json.getFirst
  rw [List.findSome?_isSome_iff]

/-- Only objects have fields. -/
theorem asArray_of_symbolOf (hsymbol : (symbolOf data).isSome) : data.asArray = none := by
  cases data with
  | array items => cases hsymbol
  | _ => rfl

theorem parseBarItem_isSome (liveCutoffTs : Option ℤ) (historyOrigin : DataOrigin)
    (hsymbol : (symbolOf data).isSome) :
    (parseBarItem text liveCutoffTs historyOrigin data).isSome ↔ HasBarTime text data := by
  obtain ⟨symbol, hsymbol⟩ := Option.isSome_iff_exists.mp hsymbol
  unfold parseBarItem HasBarTime
  rw [hsymbol]
  cases (data.getFirst ["time", "timestamp"]).bind (toI64 text) with
  | none | some => rfl

theorem parseBars_isEmpty (hdata : value.get "data" = some data) (hsymbol : (symbolOf data).isSome)
    (liveCutoffTs : Option ℤ) (historyOrigin : DataOrigin) :
    (parseBars text liveCutoffTs historyOrigin value).isEmpty ↔ ¬ HasBarTime text data := by
  rw [← parseBarItem_isSome liveCutoffTs historyOrigin hsymbol, parseBars, hdata]
  dsimp only
  rw [asArray_of_symbolOf hsymbol]
  cases parseBarItem text liveCutoffTs historyOrigin data with
  | none => simp
  | some bar => simp

theorem parseTrade_isSome (text : RouterText) (now : ℤ) (hdata : value.get "data" = some data)
    (hsymbol : (symbolOf data).isSome) :
    (parseTrade text now value).isSome ↔ HasTradeIds text data := by
  obtain ⟨symbol, hsymbol⟩ := Option.isSome_iff_exists.mp hsymbol
  unfold parseTrade HasTradeIds
  rw [hdata]
  cases horder : (data.getFirst ["orderno", "orderNo"]).bind (toI64 text) with
  | none => simp [horder]
  | some orderId =>
    cases htrade : (data.getFirst ["id", "tradeId"]).bind (toIdText text) with
    | none => simp [horder, htrade]
    | some tradeId => simp [horder, htrade, hsymbol]

theorem parseStopOrder_isSome (text : RouterText) (now : ℤ)
    (hdata : value.get "data" = some data) (hsymbol : (symbolOf data).isSome) :
    (parseStopOrder text now value).isSome ↔ HasStopField data ∧ HasStopId text data := by
  obtain ⟨symbol, hsymbol⟩ := Option.isSome_iff_exists.mp hsymbol
  unfold parseStopOrder HasStopField HasStopId
  rw [hdata]
  simp only [Option.bind_eq_bind, Option.bind_some]
  split
  · next hnone =>
    simp only [Bool.and_eq_true, Option.isNone_iff_eq_none] at hnone
    simp [hnone]
  · next hsome =>
    have hfield : (data.get "stopPrice").isSome ∨ (data.get "triggerPrice").isSome ∨
        (data.get "stopEndUnixTime").isSome := by
      simp only [Bool.and_eq_true, Option.isNone_iff_eq_none, not_and_or] at hsome
      simpa only [or_assoc, ← ne_eq, ← Option.isSome_iff_ne_none] using hsome
    cases hid : (data.getFirst ["id", "orderId"]).bind (toIdText text) with
    | none => simp
    | some stopOrderId => simp [hfield, hsymbol]

theorem parsePosition_isSome (hdata : value.get "data" = some data)
    (hsymbol : (symbolOf data).isSome) :
    (parsePosition text now value).isSome ↔ LacksOrderFields data ∧
      ((data.getFirst ["avgPrice", "avg_price"]).bind Json.asF64).isSome := by
  obtain ⟨symbol, hsymbol⟩ := Option.isSome_iff_exists.mp hsymbol
  unfold parsePosition LacksOrderFields
  rw [hdata]
  simp only [Option.bind_eq_bind, Option.bind_some]
  split
  · next hany =>
    obtain ⟨name, hmem, hsome⟩ := List.any_eq_true.mp hany
    have hthere : ¬ ∀ name ∈ ["status", "orderId", "id", "price", "side", "type"],
        data.get name = none := by
      intro hnone
      rw [hnone name hmem] at hsome
      cases hsome
    simp only [hthere, false_and, iff_false]
    exact Bool.false_ne_true
  · next hnone =>
    have hlacks : ∀ name ∈ ["status", "orderId", "id", "price", "side", "type"],
        data.get name = none := by
      intro name hmem
      by_contra hsome
      exact hnone (List.any_eq_true.mpr ⟨name, hmem, Option.isSome_iff_ne_none.mpr hsome⟩)
    cases havg : (data.getFirst ["avgPrice", "avg_price"]).bind Json.asF64 with
    | none => simp
    | some avgPrice => simpa [hsymbol] using hlacks

theorem exists_data_of_parse (h : (kind.parse text now value).isSome) :
    ∃ data, value.get "data" = some data ∧ (symbolOf data).isSome := by
  cases hdata : value.get "data" with
  | none =>
    cases kind <;>
      simp [AccountKind.parse, parseOrder, parseStopOrder, parseTrade, parsePosition, hdata] at h
  | some data =>
    refine ⟨data, rfl, ?_⟩
    cases hsymbol : symbolOf data with
    | some symbol => rfl
    | none =>
      exfalso
      cases kind with
      | order => simp [AccountKind.parse, parseOrder, hdata, hsymbol] at h
      | stopOrder => simp [AccountKind.parse, parseStopOrder, hdata, hsymbol] at h
      | trade => simp [AccountKind.parse, parseTrade, hdata, hsymbol] at h
      | position => simp [AccountKind.parse, parsePosition, hdata, hsymbol] at h

/-- An accepted order has an identifier and no stop price. -/
theorem parseOrder_fields (hdata : value.get "data" = some data)
    (h : (parseOrder text now value).isSome) :
    (data.getFirst ["orderId", "id"]).isSome ∧ data.get "stopPrice" = none ∧
      data.get "triggerPrice" = none := by
  unfold parseOrder at h
  rw [hdata] at h
  simp only [Option.bind_eq_bind, Option.bind_some] at h
  split at h
  · cases h
  · next hstop =>
    cases hid : data.getFirst ["orderId", "id"] with
    | none => simp [hid] at h
    | some id =>
      refine ⟨rfl, ?_⟩
      simpa using hstop

end Parsers

/-! ### The classification -/

variable {output : RouterOutput}

section Classify

variable {text : RouterText} {now : ℤ} {value data : Json}

theorem parsePosition_eq_none (hdata : value.get "data" = some data)
    (hsymbol : (symbolOf data).isSome) {names : List String} (hnames : names ⊆ ["orderId", "id"])
    (hid : (data.getFirst names).isSome) : parsePosition text now value = none := by
  by_contra hsome
  have hlacks := ((parsePosition_isSome hdata hsymbol).mp (Option.isSome_iff_ne_none.mpr hsome)).1
  obtain ⟨name, hmem, hthere⟩ := (getFirst_isSome names).mp hid
  have hnone : data.get name = none := by
    refine hlacks name ?_
    rcases List.mem_cons.mp (hnames hmem) with rfl | hmem
    · simp
    · rw [List.mem_singleton.mp hmem]
      simp
  rw [hnone] at hthere
  cases hthere

theorem stopId_isSome (h : HasStopId text data) : (data.getFirst ["id", "orderId"]).isSome := by
  unfold HasStopId at h
  cases hid : data.getFirst ["id", "orderId"] with
  | none => simp [hid] at h
  | some id => rfl

/-- The fields that make an earlier parser accept a message of a kind: the time of a bar for all
of them, the identifiers of a trade for the others, the end of a stop order for orders. -/
def Mistakable (text : RouterText) (data : Json) (kind : AccountKind) : Prop :=
  HasBarTime text data ∨ (kind ≠ .trade ∧ HasTradeIds text data) ∨
    (kind = .order ∧ (data.get "stopEndUnixTime").isSome ∧ HasStopId text data)

/-- A message that is no bar is classified by its kind unless an earlier parser accepts it. -/
theorem classify_eq_iff (hdata : value.get "data" = some data) (hsymbol : (symbolOf data).isSome)
    (h : kind.parse text now value = some output) :
    classify text now value = some output ↔ ¬ (kind ≠ .trade ∧ HasTradeIds text data) ∧
      ¬ (kind = .order ∧ (data.get "stopEndUnixTime").isSome ∧ HasStopId text data) := by
  have htrade := parseTrade_isSome text now hdata hsymbol
  unfold classify
  cases htraded : parseTrade text now value with
  -- a trade is accepted first, whatever the message is
  | some trade =>
    rw [htraded] at htrade
    have hids : HasTradeIds text data := htrade.mp rfl
    cases kind with
    | trade =>
      rw [AccountKind.parse, htraded] at h
      simp only [Option.map_some, Option.some_or, ne_eq, not_true_eq_false, false_and,
        not_false_eq_true, reduceCtorEq, and_self, iff_true]
      exact h
    | order =>
      obtain ⟨order, _, rfl⟩ := Option.map_eq_some_iff.mp h
      simp [hids]
    | stopOrder =>
      obtain ⟨stopOrder, _, rfl⟩ := Option.map_eq_some_iff.mp h
      simp [hids]
    | position =>
      obtain ⟨position, _, rfl⟩ := Option.map_eq_some_iff.mp h
      simp [hids]
  | none =>
    rw [htraded] at htrade
    have hids : ¬ HasTradeIds text data := fun hids => absurd (htrade.mpr hids) (by simp)
    simp only [Option.map_none, Option.none_or, hids, and_false, not_false_eq_true, true_and]
    cases kind with
    | trade =>
      rw [AccountKind.parse, htraded] at h
      cases h
    | position =>
      rw [AccountKind.parse] at h
      simp [h]
    | stopOrder =>
      obtain ⟨stopOrder, hstop, rfl⟩ := Option.map_eq_some_iff.mp h
      -- a stop order has an id, so it is no position
      have hid := ((parseStopOrder_isSome text now hdata hsymbol).mp (Option.isSome_of_eq_some hstop)).2
      rw [parsePosition_eq_none hdata hsymbol (by simp) (stopId_isSome hid), hstop]
      simp
    -- an order may still be taken for a stop order
    | order =>
      obtain ⟨order, horder, rfl⟩ := Option.map_eq_some_iff.mp h
      obtain ⟨hid, hprice, htrigger⟩ := parseOrder_fields hdata (Option.isSome_of_eq_some horder)
      rw [parsePosition_eq_none hdata hsymbol (by simp) hid]
      have hstop := parseStopOrder_isSome text now hdata hsymbol
      have hfield : HasStopField data ↔ (data.get "stopEndUnixTime").isSome := by
        simp [HasStopField, hprice, htrigger]
      rw [hfield] at hstop
      cases hstopped : parseStopOrder text now value with
      | some stopOrder =>
        rw [hstopped] at hstop
        simp [hstop.mp rfl]
      | none =>
        rw [hstopped] at hstop
        have hno : ¬ ((data.get "stopEndUnixTime").isSome ∧ HasStopId text data) :=
          fun hboth => absurd (hstop.mpr hboth) (by simp)
        simp [horder, hno]

end Classify

/-! ### The router -/

theorem exists_bar_of_mem_routeBar {bar : BarEvent} {state : RouterState}
    (h : output ∈ (routeBar state bar).2) : ∃ bar', output = .bar bar' := by
  unfold routeBar at h
  split at h
  · exact ⟨bar, List.mem_singleton.mp h⟩
  · exact ⟨bar, List.mem_singleton.mp h⟩
  · dsimp only at h
    split at h
    · cases h
    · next prev _ =>
      split_ifs at h
      · cases h
      · exact ⟨prev, List.mem_singleton.mp h⟩
      · cases h

theorem exists_bar_of_mem_routeBars (bars : List BarEvent) (state : RouterState)
    (h : output ∈ (routeBars state bars).2) : ∃ bar, output = .bar bar := by
  induction bars generalizing state with
  | nil => cases h
  | cons bar bars ih =>
    rcases List.mem_append.mp h with h | h
    · exact exists_bar_of_mem_routeBar h
    · exact ih _ h

/-- The event of a kind is neither a bar nor a failure of the authorization. -/
theorem AccountKind.parse_ne {text : RouterText} {now : ℤ} {value : Json}
    (h : kind.parse text now value = some output) :
    (∀ bar, output ≠ .bar bar) ∧ ∀ code, output ≠ .authError code := by
  cases kind <;>
    · obtain ⟨event, _, rfl⟩ := Option.map_eq_some_iff.mp h
      exact ⟨fun _ => RouterOutput.noConfusion, fun _ => RouterOutput.noConfusion⟩

/-- A message that the parser of its kind accepts is sent on the channel of that kind, and on no
other, if and only if it has no `httpCode` and no fields that make an earlier parser accept it. -/
theorem route_eq_iff {text : RouterText} {now : ℤ} {value : Json} {kind : AccountKind}
    {output : RouterOutput} (state : RouterState) (h : kind.parse text now value = some output) :
    route text now state value = (state, [output]) ↔ (value.get "httpCode").bind Json.asI64 = none ∧
      ∀ data, value.get "data" = some data → ¬ Mistakable text data kind := by
  obtain ⟨data, hdata, hsymbol⟩ := exists_data_of_parse (Option.isSome_of_eq_some h)
  obtain ⟨hbar, hauth⟩ := AccountKind.parse_ne h
  -- the message has only one `data`
  have hone : (∀ data', value.get "data" = some data' → ¬ Mistakable text data' kind) ↔
      ¬ Mistakable text data kind := by
    rw [hdata]
    simp
  rw [hone]
  unfold route
  cases hcode : (value.get "httpCode").bind Json.asI64 with
  -- a message with an `httpCode` is at most an authorization error
  | some code =>
    simp only [reduceCtorEq, false_and, iff_false]
    intro heq
    have hsent : (if code = 401 ∨ code = 403 then [RouterOutput.authError code] else []) = [output] :=
      (Prod.ext_iff.mp heq).2
    have hmem : output ∈ [output] := List.mem_singleton.mpr rfl
    rw [← hsent] at hmem
    split_ifs at hmem
    · exact hauth code (List.mem_singleton.mp hmem)
    · cases hmem
  | none =>
    have hempty : (parseBars text state.liveCutoffTs state.historyOrigin value).isEmpty = true ↔
        ¬ HasBarTime text data :=
      parseBars_isEmpty hdata hsymbol state.liveCutoffTs state.historyOrigin
    by_cases htime : HasBarTime text data
    · -- the message is taken for a bar
      have hbars : (parseBars text state.liveCutoffTs state.historyOrigin value).isEmpty = false :=
        Bool.eq_false_iff.mpr fun hnone => hempty.mp hnone htime
      have hmistakable : Mistakable text data kind := .inl htime
      simp only [hbars, Bool.not_false, if_true, hmistakable, not_true_eq_false, and_false, iff_false]
      intro heq
      have hmem : output ∈ (routeBars state
          (parseBars text state.liveCutoffTs state.historyOrigin value)).2 := by
        rw [heq]
        exact List.mem_singleton.mpr rfl
      obtain ⟨bar, rfl⟩ := exists_bar_of_mem_routeBars _ state hmem
      exact hbar bar rfl
    -- without a bar's time the message is classified
    · have hbars : (parseBars text state.liveCutoffTs state.historyOrigin value).isEmpty = true :=
        hempty.mpr htime
      have hmistakable : ¬ Mistakable text data kind ↔ ¬ (kind ≠ .trade ∧ HasTradeIds text data) ∧
          ¬ (kind = .order ∧ (data.get "stopEndUnixTime").isSome ∧ HasStopId text data) := by
        rw [Mistakable, not_or, not_or]
        simp only [htime, not_false_eq_true, true_and]
      rw [hmistakable, ← classify_eq_iff hdata hsymbol h]
      simp only [hbars, Bool.not_true, Bool.false_eq_true, if_false, true_and, Prod.mk.injEq]
      exact Option.toList_eq_singleton_iff

/-! ### Messages that are taken for others -/

def AccountKind.fields : AccountKind → List String
  | .order =>
    ["stopPrice", "triggerPrice", "orderId", "id", "symbol", "code", "status", "side", "type",
      "price", "existing", "comment", "user"] ++ qtyFields ++ filledFields ++ updateTimeFields
  | .stopOrder =>
    ["stopPrice", "triggerPrice", "stopEndUnixTime", "id", "orderId", "symbol", "code",
      "exchangeOrderId", "orderNo", "status", "side", "price", "existing", "comment", "endTime"] ++
      qtyFields ++ filledFields ++ updateTimeFields
  | .trade =>
    ["orderno", "orderNo", "id", "tradeId", "symbol", "code", "side", "price", "commission",
      "existing", "date", "timestamp"] ++ qtyFields
  | .position =>
    ["status", "orderId", "id", "price", "side", "type", "avgPrice", "avg_price", "symbol", "code",
      "qty", "timestamp"]

def plainText : RouterText := ⟨id, fun x => toString x.num, fun _ => none, fun _ => none⟩

def timedOrder : Json :=
  .object [("data", .object [("id", .number (.posInt 5)), ("symbol", .string "IMOEXF"),
    ("status", .string "working"), ("updateTime", .number (.posInt 1700000000))])]

/-- An order whose time is its `timestamp`, which `parse_order` reads as well. -/
def stampedOrder : Json :=
  .object [("data", .object [("id", .number (.posInt 5)), ("symbol", .string "IMOEXF"),
    ("status", .string "working"), ("timestamp", .number (.posInt 1700000000))])]

def workingOrder : OrderEvent :=
  ⟨5, none, "IMOEXF", "working", "unknown", "unknown", 0, 0, 0, false, none, 1700000000⟩

/-- An order with an update time is sent as one. -/
theorem route_timedOrder :
    route plainText 0 .initial timedOrder = (.initial, [.order workingOrder]) := by
  have hparse : AccountKind.order.parse plainText 0 timedOrder = some (.order workingOrder) := by
    decide +kernel
  refine (route_eq_iff .initial hparse).mpr ⟨rfl, fun data hdata => ?_⟩
  rw [← Option.some.inj hdata]
  unfold Mistakable HasBarTime HasTradeIds HasStopId
  decide +kernel

/-- An order with a timestamp is taken for a live bar. -/
theorem not_route_stampedOrder :
    ¬ ∀ (text : RouterText) (now : ℤ) (state : RouterState) (fields : List (String × Json))
        (kind : AccountKind) (output : RouterOutput),
        (∀ name ∈ fields.map (·.1), name ∈ kind.fields) →
        kind.parse text now (.object [("data", .object fields)]) = some output →
        route text now state (.object [("data", .object fields)]) = (state, [output]) := by
  intro hclaim
  have hparse : AccountKind.order.parse plainText 0 stampedOrder = some (.order workingOrder) := by
    decide +kernel
  have hsent := congrArg Prod.snd
    (hclaim plainText 0 .initial _ .order (.order workingOrder) (by decide +kernel) hparse)
  have hnothing : (route plainText 0 .initial stampedOrder).2 = [] := by decide +kernel
  exact absurd (hnothing.symm.trans hsent) (by simp)

end AlorRs.Gateway
