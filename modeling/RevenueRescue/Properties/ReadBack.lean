import RevenueRescue.Intelligence.History
import RevenueRescue.Properties.Provenance

/-!
# Recommendations are read back as they were answered

The history of a case does not generate anything again: it reads the payload that the generation
recorded. Whatever happens in between, what it shows is what the generation answered, but for the
time and for the note of the validation.

The payload keeps probabilities as text with four decimal places. So the logistic function is
assumed to answer with four places, as the estimator rounds it.
-/

namespace RevenueRescue

open Python IntelligenceOrchestrator

/-! ## Fields -/

/-- A number with four decimal places. -/
def FourPlaces (x : ℚ) : Prop := ∃ units : ℤ, x = units / 10000

theorem roundHalfEven_intCast (units : ℤ) : roundHalfEven (units : ℚ) = units :=
  le_antisymm (Decimal.roundHalfEven_le le_rfl) (Decimal.le_roundHalfEven le_rfl)

theorem toList_padded {width n : ℕ} : (Datetime.padded width n).toList =
    List.replicate (width - (Nat.toDigits 10 n).length) '0' ++ Nat.toDigits 10 n := by
  have hdigits : (toString ((n : ℤ).toNat)).toList = Nat.toDigits 10 n := Nat.toList_repr
  unfold Datetime.padded
  dsimp only
  rw [hdigits, String.toList_ofList]

/-- The text of a decimal with four places is read back. -/
theorem ofText_fixed4 {x : ℚ} (h : FourPlaces x) : Numeral.ofText (fixed4 x) = some x := by
  obtain ⟨units, rfl⟩ := h
  have hunits : roundHalfEven ((units : ℚ) / 10000 * 10000) = units := by
    rw [div_mul_cancel₀ _ (by norm_num)]
    exact roundHalfEven_intCast units
  have htext : (fixed4 ((units : ℚ) / 10000)).toList =
      (if decide (units < 0) then ['-'] else []) ++ Numeral.fixedDigits 4 units.natAbs := by
    have hsign : (if units < 0 then "-" else "").toList =
        if decide (units < 0) then ['-'] else [] := by
      by_cases hneg : units < 0 <;> simp [hneg]
    have hwhole : (toString (units.natAbs / 10000)).toList =
        Nat.toDigits 10 (units.natAbs / 10000) := Nat.toList_repr
    have hfraction : (units.natAbs : ℤ) % 10000 = (units.natAbs % 10000 : ℕ) := by omega
    unfold fixed4
    simp only [hunits, String.toList_append]
    rw [hsign, hwhole, hfraction, toList_padded, List.append_assoc,
      List.append_assoc]
    rfl
  have hvalue : (if decide (units < 0) then -(units.natAbs : ℚ) else units.natAbs) = units := by
    rcases lt_or_ge units 0 with hneg | hpos
    · rw [if_pos (decide_eq_true hneg), Nat.cast_natAbs, abs_of_neg hneg, Int.cast_neg, neg_neg]
    · rw [if_neg (by simpa using hpos), Nat.cast_natAbs, abs_of_nonneg hpos]
  rw [Numeral.ofText_fixedDigits (by decide) htext, hvalue]
  norm_num

/-- Items that are read back one by one are read back together. -/
theorem readList_map {α : Type} {read : Json → Option α} {write : α → Json} {xs : List α}
    (h : ∀ x ∈ xs, read (write x) = some x) : readList read (.arr (xs.map write)) = some xs :=
  Option.mapM_eq_some.mpr (List.forall₂_map_left_iff.mpr (List.forall₂_same.mpr h))

theorem readList_readText (texts : List String) :
    readList readText (.arr (texts.map .str)) = some texts :=
  readList_map fun _ _ => rfl

/-- The estimate of a candidate is read back. -/
theorem readEstimate_dumpEstimate {dto : StrategyEstimateDTO} (h : FourPlaces dto.probability) :
    readEstimate (.obj (dumpEstimate dto)) = some dto := by
  have hstrategy : fieldOf (dumpEstimate dto) "strategy" readText = some dto.strategy := rfl
  have haction : fieldOf (dumpEstimate dto) "action_type" readAction = some dto.actionType :=
    ActionType.ofValue_value dto.actionType
  have hprobability : fieldOf (dumpEstimate dto) "probability" readDecimal = some dto.probability :=
    ofText_fixed4 h
  have hrecovery : fieldOf (dumpEstimate dto) "recovery_value_minor" readInt =
      some dto.recoveryValueMinor := rfl
  have hcost : fieldOf (dumpEstimate dto) "cost_minor" readInt = some dto.costMinor := rfl
  have hexpected : fieldOf (dumpEstimate dto) "expected_value_minor" readInt =
      some dto.expectedValueMinor := rfl
  have hpermitted : fieldOf (dumpEstimate dto) "permitted" readBool = some dto.permitted := rfl
  have hreasons : fieldOr (dumpEstimate dto) "reasons" [] (readList readText) = some dto.reasons :=
    readList_readText dto.reasons
  unfold readEstimate
  dsimp only
  rw [hstrategy, haction, hprobability, hrecovery, hcost, hexpected, hpermitted, hreasons]
  rfl

/-! ## Payloads -/

/-- The decimals of a formulation have four places, and its score passes the schema. -/
structure Storable (f : Formulation) : Prop where
  winner : FourPlaces f.winnerEstimate.probability
  candidates : ∀ c ∈ f.selection.candidates, FourPlaces c.probability
  score : 0 ≤ f.risk.score ∧ f.risk.score ≤ 100

/-- The payload of a generation says its answer, with what the decision says by now. -/
theorem ofPayload_auditPayload {f : Formulation} (h : Storable f) (id : UUID)
    (decisionVersion : ℕ) (decision : AgentDecision) (rationaleSafe : Option String)
    (eventTime : Datetime) :
    ofPayload id decision rationaleSafe (auditPayload id decisionVersion f) eventTime = some
      { toRecommendationDTO id decision.caseId decision.decisionVersion "hybrid_expected_value"
          eventTime f with
        actionType := decision.actionType
        confidence := decision.confidence
        validationStatus := decision.validationStatus } := by
  let payload := auditPayload id decisionVersion f
  have hcandidates : fieldOr payload "candidate_strategies" [] (readList readEstimate) =
      some (f.selection.candidates.map toEstimateDTO) := by
    refine readList_map fun dto hdto => readEstimate_dumpEstimate ?_
    obtain ⟨c, hc, rfl⟩ := List.mem_map.mp hdto
    exact h.candidates c hc
  have hstrategy : fieldOr payload "recommended_strategy"
      (StrategyCatalog.mapToStrategy decision.actionType).value readText =
        some f.selection.selectedStrategy.value := rfl
  have hcategory : fieldOr payload "failure_category" (categoryOf decision) readText =
      some f.failure.failureCategory := rfl
  have hband : fieldOr payload "risk_band" "medium" readText = some f.risk.band := rfl
  have hscore : fieldOr payload "risk_score" 50 readInt = some f.risk.score := rfl
  have hprobability : Dict.get payload "recovery_probability" =
      .str (fixed4 f.winnerEstimate.probability) := rfl
  have hdecimal : readDecimal (.str (fixed4 f.winnerEstimate.probability)) =
      some f.winnerEstimate.probability := ofText_fixed4 h.winner
  have hexpected : fieldOr payload "expected_value_minor" 0 readInt =
      some f.winnerEstimate.expectedValueMinor := rfl
  have hexplanation : fieldOr payload "explanation" (rationaleSafe.getD "") readText =
      some f.explanation.summary := rfl
  have hevidence : fieldOr payload "supporting_evidence" [] (readList readText) =
      some f.explanation.supportingEvidence := readList_readText _
  have hlimitations : fieldOr payload "limitations" [] (readList readText) =
      some f.explanation.limitations := readList_readText _
  have hversion : fieldOr payload "model_version" "deterministic-logistic-v1" readText =
      some LogisticRecoveryEstimator.VERSION := rfl
  unfold ofPayload
  rw [hcandidates, hstrategy, hcategory, hband, hscore, hprobability, hexpected, hexplanation,
    hevidence, hlimitations, hversion]
  dsimp only
  rw [hdecimal]
  simp only [Option.bind_eq_bind, Option.bind_some, guard, if_pos h.score]
  rfl

theorem FourPlaces.max {x y : ℚ} (hx : FourPlaces x) (hy : FourPlaces y) :
    FourPlaces (Max.max x y) := by
  rcases max_choice x y with h | h
  · rwa [h]
  · rwa [h]

theorem FourPlaces.min {x y : ℚ} (hx : FourPlaces x) (hy : FourPlaces y) :
    FourPlaces (Min.min x y) := by
  rcases min_choice x y with h | h
  · rwa [h]
  · rwa [h]

/-- The candidates of a selection have the probabilities of the estimator. -/
theorem candidates_fourPlaces {n : Numerics} {features : CaseFeatures}
    {result : StrategySelectionResult} (hround : ∀ z, FourPlaces (n.logistic z))
    (h : StrategySelector.selectStrategy (LogisticRecoveryEstimator.estimator n)
      (selectionOf n features) = .ok result) :
    ∀ c ∈ result.candidates, FourPlaces c.probability := by
  cases hopen : features.isTerminal with
  | true =>
    rw [selection_eq_terminal hopen h]
    intro c hc
    rw [List.mem_singleton.mp hc]
    exact ⟨0, by norm_num⟩
  | false =>
    obtain ⟨gross, w, hv, -⟩ := exists_winner hopen h
    intro c hc
    rw [hv.probability c hc]
    have hlow : FourPlaces (1 / 100) := ⟨100, by norm_num⟩
    have hhigh : FourPlaces (99 / 100) := ⟨9900, by norm_num⟩
    exact hlow.max (hhigh.min (hround _))

/-- The estimate of the winner is that of a candidate. -/
theorem winnerEstimate_mem {n : Numerics} {features : CaseFeatures} {f : Formulation}
    (h : formulate n features = .ok f) : f.winnerEstimate ∈ f.selection.candidates := by
  unfold formulate at h
  obtain ⟨selection, -, h⟩ := Except.bind_eq_ok.mp h
  obtain ⟨winnerEstimate, hchosen, h⟩ := Except.bind_eq_ok.mp h
  dsimp only [pure, Except.pure] at h
  rw [Except.ok.injEq] at h
  subst h
  dsimp only
  rcases hfound : selection.candidates.find? fun est => est.strategy == selection.selectedStrategy
    with _ | chosen
  · rw [hfound] at hchosen
    rcases hhead : selection.candidates.head? with _ | first
    · rw [hhead] at hchosen
      cases hchosen
    · rw [hhead] at hchosen
      obtain rfl := Except.ok.inj hchosen
      exact List.mem_of_head? hhead
  · rw [hfound] at hchosen
    obtain rfl := Except.ok.inj hchosen
    exact List.mem_of_find?_eq_some hfound

/-- What the pipeline formulates can be stored. -/
theorem storable_of_formulate {n : Numerics} {features : CaseFeatures} {f : Formulation}
    (hround : ∀ z, FourPlaces (n.logistic z)) (h : formulate n features = .ok f) : Storable f := by
  obtain ⟨-, hrisk, hselection⟩ := formulate_eq_ok h
  have hcandidates := candidates_fourPlaces hround hselection
  refine ⟨hcandidates _ (winnerEstimate_mem h), hcandidates, ?_⟩
  rw [hrisk]
  exact RiskAssessor.score_bounds n _

/-! ## Versions -/

theorem decisionRows_decisions (s : Store) (caseId : UUID) :
    (decisionRows s caseId).map Prod.fst = s.decisions.filter fun d => d.caseId == caseId := by
  unfold decisionRows
  have hfilter := List.filter_map (f := Prod.fst) (p := fun d : AgentDecision => d.caseId == caseId)
    (l := s.decisions.zipIdx)
  rw [List.zipIdx_map_fst] at hfilter
  exact hfilter.symm

/-- The versions of the recommendations for a case, in the order in which they were stored. -/
def versionsOf (s : Store) (caseId : UUID) : List ℕ :=
  (s.advice.filter fun d => d.caseId == caseId).map AgentDecision.decisionVersion

theorem decisionRows_versions (s : Store) (caseId : UUID) :
    (decisionRows s caseId).map (fun row => row.1.decisionVersion) = versionsOf s caseId := by
  have hrows := congrArg (List.map AgentDecision.decisionVersion) (decisionRows_decisions s caseId)
  rw [List.map_map] at hrows
  unfold versionsOf Store.advice
  rw [List.filter_map, List.map_map]
  exact hrows

/-- The recommendations for each case have the versions 1, 2, and so on. -/
def VersionsDense (s : Store) : Prop := ∀ caseId, Numbering.Dense (versionsOf s caseId)

/-- The next version is one more than the number of recommendations. -/
theorem newDecision_version {s : Store} {caseId : UUID}
    (h : Numbering.Dense (versionsOf s caseId)) (r : Recommendation) :
    (newDecision s caseId r).decisionVersion = (versionsOf s caseId).length + 1 := by
  have hrows := decisionRows_versions s caseId
  have hdecisions := decisionRows_decisions s caseId
  have hversions : versionsOf s caseId =
      (s.decisions.filter fun d => d.caseId == caseId).map AgentDecision.decisionVersion := by
    rw [← hrows, ← hdecisions, List.map_map]
    rfl
  have hlatest : s.latestDecision caseId =
      (s.decisions.filter fun d => d.caseId == caseId).getLast? := by
    unfold Store.latestDecision
    rw [hversions] at h
    rw [h.insertionSort_descending, List.head?_reverse]
  rw [newDecision_decisionVersion, latestVersion, hlatest, ← List.getLast?_map, ← hversions, h]
  rcases hlength : (versionsOf s caseId).length with _ | n
  · rfl
  · rw [List.range'_concat, List.getLast?_concat]
    simp [Nat.add_comm]

namespace ApiWorld

variable {a : Application} {w : ApiWorld} {r : ApiRequest}

theorem step_versionsDense (h : VersionsDense w.system.db) :
    VersionsDense (w.step a r).system.db := by
  intro caseId
  rcases step_advice a w r with hsame | ⟨recommended, case, features, f, -, hadvice⟩
  · unfold versionsOf
    rw [hsame]
    exact h caseId
  · have hversion : (formulated w.system.db recommended f).decisionVersion =
        (versionsOf w.system.db recommended).length + 1 :=
      newDecision_version (h recommended) _
    have hcase : (formulated w.system.db recommended f).caseId = recommended := rfl
    unfold versionsOf at hversion ⊢
    rw [hadvice, List.filter_append, List.map_append]
    by_cases hsame : recommended = caseId
    · subst hsame
      rw [List.filter_cons_of_pos (by rw [hcase, beq_self_eq_true]), List.filter_nil,
        List.map_singleton, hversion]
      exact (h recommended).append_length
    · rw [List.filter_cons_of_neg (by rw [hcase, beq_iff_eq]; exact hsame), List.filter_nil,
        List.map_nil, List.append_nil]
      exact h caseId

theorem run_versionsDense (hempty : w.system = World.empty) (requests : List ApiRequest) :
    VersionsDense (run a w requests).system.db := by
  refine Run.invariant (I := fun v : ApiWorld => VersionsDense v.system.db)
    (fun _ _ => step_versionsDense) requests fun _ => ?_
  rw [hempty]
  exact Numbering.dense_nil

/-! ## Records -/

/-- The audit records that a request writes for a decision, which are committed with it or not at
all. The records of other requests do not say that a recommendation was generated. -/
def recordedBy (a : Application) (w : ApiWorld) (r : ApiRequest) : List (UUID × RecordedEvent) :=
  match r.call with
  | .guarded (.generateCaseRecommendation caseId) =>
    let s := w.system.db
    if (w.step a r).system.db.decisions.length = s.decisions.length then []
    else
      match s.recoveryCases[caseId]? with
      | none => []
      | some case =>
        match defaultPipeline a.numerics s.decisions.length (nextVersion s caseId) case
            s.transactions[case.triggerTransactionId]? s.customers[case.customerId]?
            (s.attemptsOf caseId).length with
        | none => []
        | some answer =>
          (generationRecords r.surroundings.env s caseId case answer).map fun record =>
            (s.decisions.length, record)
  | _ => []

theorem advice_length (s : Store) : s.advice.length = s.decisions.length := List.length_map _

theorem step_decisions_length : w.system.db.decisions.length ≤
    (w.step a r).system.db.decisions.length := by
  rw [← advice_length, ← advice_length]
  rcases step_advice a w r with hsame | ⟨_, _, _, _, -, hadvice⟩
  · rw [hsame]
  · rw [hadvice, List.length_append]
    exact Nat.le_add_right _ _

/-- Records carry the id of the decision that they were written with. -/
theorem records_numbered (a : Application) :
    Run.Numbered (step a) (fun w => w.system.db.decisions.length) (recordedBy a) := by
  refine ⟨fun _ _ => step_decisions_length, fun w r entry hentry => ?_⟩
  unfold recordedBy at hentry
  split at hentry
  next caseId hcall =>
    dsimp only at hentry
    split_ifs at hentry with hsame
    · cases hentry
    rcases hrow : w.system.db.recoveryCases[caseId]? with _ | case
    · rw [hrow] at hentry
      cases hentry
    rw [hrow] at hentry
    dsimp only at hentry
    split at hentry
    · cases hentry
    · obtain ⟨record, -, rfl⟩ := List.mem_map.mp hentry
      exact ⟨rfl, Nat.lt_of_le_of_ne step_decisions_length fun h => hsame h.symm⟩
  next => cases hentry

/-- What a generation records of its formulation. -/
theorem Formulates.recordedBy {caseId : UUID} {case : RecoveryCase} {features : CaseFeatures}
    {f : Formulation} (h : Formulates a w r caseId case features f)
    (hstored : w.system.db.decisions.length < (w.step a r).system.db.decisions.length) :
    ApiWorld.recordedBy a w r =
      (generationRecords r.surroundings.env w.system.db caseId case
        (recommendationOf w.system.db.decisions.length (nextVersion w.system.db caseId) f)).map
          fun record => (w.system.db.decisions.length, record) := by
  obtain ⟨user, ask, hadmitted⟩ := h.admitted
  have hpipeline : defaultPipeline a.numerics w.system.db.decisions.length
      (nextVersion w.system.db caseId) case w.system.db.transactions[case.triggerTransactionId]?
      w.system.db.customers[case.customerId]? (w.system.db.attemptsOf caseId).length =
      some (recommendationOf w.system.db.decisions.length (nextVersion w.system.db caseId) f) := by
    unfold defaultPipeline
    rw [h.extracted, Option.bind_eq_bind, Option.bind_some, h.formulated]
    rfl
  unfold ApiWorld.recordedBy
  rw [hadmitted.called]
  dsimp only
  rw [if_neg (Nat.ne_of_gt hstored), h.caseRow]
  dsimp only
  rw [hpipeline]

/-- `AuditEventRepository.find_by_correlation_id` for the id of a decision, after requests. -/
def auditRecords (a : Application) (w : ApiWorld) (requests : List ApiRequest) (id : UUID) :
    List RecordedEvent :=
  ((Run.log (step a) (recordedBy a) w requests).filter fun entry => entry.1 == id).map Prod.snd

theorem recordedPayload_generationRecords (env : Env) (s : Store) (caseId : UUID)
    (case : RecoveryCase) (id : UUID) (decisionVersion : ℕ) (f : Formulation) :
    recordedPayload (generationRecords env s caseId case (recommendationOf id decisionVersion f)) =
      some (auditPayload id decisionVersion f, env.now.naive) :=
  rfl

/-! ## Answers -/

/-- What a generation answers about a case that it formulated. -/
def generated (s : Store) (now : Datetime) (caseId : UUID) (f : Formulation) :
    CaseRecommendationDTO :=
  toRecommendationDTO s.decisions.length caseId (nextVersion s caseId) "hybrid_expected_value" now f

/-- The answer about a stored recommendation is that of the generation that stored it, with the time
of the record and the note of the validation. -/
def ShownAs (a : Application) (w : ApiWorld) (requests : List ApiRequest)
    (row : AgentDecision × UUID) (answer : CaseRecommendationDTO) : Prop :=
  ∃ earlier generation later case features f, requests = earlier ++ generation :: later ∧
    Formulates a (run a w earlier) generation row.1.caseId case features f ∧
    row.2 = (run a w earlier).system.db.decisions.length ∧
    answer =
      { generated (run a w earlier).system.db generation.surroundings.env.now.naive row.1.caseId f
        with validationStatus := row.1.validationStatus }

/-- A stored recommendation is rebuilt from its record. -/
theorem exists_reconstituted (hround : ∀ z, FourPlaces (a.numerics.logistic z))
    (hempty : w.system = World.empty) {requests : List ApiRequest} {row : AgentDecision × UUID}
    (hrow : (run a w requests).system.db.decisions[row.2]? = some row.1) (now : Datetime)
    (rationaleSafe : Option String) :
    ∃ answer, reconstituteRecommendation now row.2 row.1 rationaleSafe
      (auditRecords a w requests row.2) = some answer ∧ ShownAs a w requests row answer ∧
        answer.decisionVersion = row.1.decisionVersion := by
  obtain ⟨decision, id⟩ := row
  obtain ⟨earlier, generation, later, case, features, f, rfl, hformulates, rfl, hadded, hadvice⟩ :=
    exists_formulation hempty hrow
  have hstored : (run a w earlier).system.db.decisions.length <
      ((run a w earlier).step a generation).system.db.decisions.length := by
    rw [← advice_length, ← advice_length, hadded, List.length_append]
    exact Nat.lt_succ_self _
  have hrecords : auditRecords a w (earlier ++ generation :: later)
      (run a w earlier).system.db.decisions.length =
        generationRecords generation.surroundings.env (run a w earlier).system.db decision.caseId
          case (recommendationOf (run a w earlier).system.db.decisions.length
            (nextVersion (run a w earlier).system.db decision.caseId) f) := by
    have hlog := (records_numbered a).filter_log earlier generation later w hstored
    unfold auditRecords
    rw [run, hlog, ← run, hformulates.recordedBy hstored, List.map_map]
    exact List.map_id' _
  have hversion : decision.decisionVersion =
      nextVersion (run a w earlier).system.db decision.caseId :=
    congrArg AgentDecision.decisionVersion hadvice
  have haction : decision.actionType = f.selection.actionType :=
    congrArg AgentDecision.actionType hadvice
  have hconfidence : decision.confidence = some f.selection.confidence :=
    congrArg AgentDecision.confidence hadvice
  refine ⟨_, ?_, ⟨earlier, generation, later, case, features, f, rfl, hformulates, rfl, rfl⟩,
    hversion.symm⟩
  unfold reconstituteRecommendation
  rw [hrecords, recordedPayload_generationRecords]
  dsimp only
  rw [ofPayload_auditPayload (storable_of_formulate hround hformulates.formulated), haction,
    hconfidence, hversion]
  rfl

theorem of_mem_decisionRows {s : Store} {caseId : UUID} {row : AgentDecision × UUID}
    (h : row ∈ decisionRows s caseId) :
    s.decisions[row.2]? = some row.1 ∧ row.1.caseId = caseId := by
  obtain ⟨hin, hcase⟩ := List.mem_filter.mp h
  exact ⟨List.mem_zipIdx_iff_getElem?.mp hin, beq_iff_eq.mp hcase⟩

/-- At any time the history of a case has one answer for each recommendation that was generated for
it, in order and numbered from one, and each is what the generation answered. The latest
recommendation is the last of them. -/
theorem history_shows_answers (hround : ∀ z, FourPlaces (a.numerics.logistic z))
    (hempty : w.system = World.empty) (requests : List ApiRequest) {caseId : UUID}
    {case : RecoveryCase} (hcase : (run a w requests).system.db.recoveryCases[caseId]? = some case)
    (now : Datetime) (rationaleSafe : UUID → Option String) :
    ∃ answers,
      getRecommendationHistory now rationaleSafe (auditRecords a w requests)
        (run a w requests).system.db caseId = .ok (some answers) ∧
      getLatestRecommendation now rationaleSafe (auditRecords a w requests)
        (run a w requests).system.db caseId = .ok (some answers.getLast?) ∧
      answers.map CaseRecommendationDTO.decisionVersion = List.range' 1 answers.length ∧
      List.Forall₂ (ShownAs a w requests) (decisionRows (run a w requests).system.db caseId)
        answers := by
  have hdense : Numbering.Dense ((decisionRows (run a w requests).system.db caseId).map
      fun row => row.1.decisionVersion) := by
    rw [decisionRows_versions]
    exact run_versionsDense hempty requests caseId
  obtain ⟨answers, hanswers⟩ := List.exists_forall₂
    (R := fun row answer => reconstituteRecommendation now row.2 row.1 (rationaleSafe row.2)
      (auditRecords a w requests row.2) = some answer ∧ ShownAs a w requests row answer ∧
        answer.decisionVersion = row.1.decisionVersion)
    fun row (hrow : row ∈ decisionRows (run a w requests).system.db caseId) =>
      exists_reconstituted hround hempty (of_mem_decisionRows hrow).1 now (rationaleSafe row.2)
  have hrebuilt := hanswers.imp fun _ _ h => h.1
  refine ⟨answers, ?_, ?_, ?_, hanswers.imp fun _ _ h => h.2.1⟩
  · unfold getRecommendationHistory decisionsByVersion
    rw [hcase, hdense.insertionSort_ascending]
    dsimp only
    rw [Option.mapM_eq_some.mpr hrebuilt]
  · unfold getLatestRecommendation latestByVersion
    rw [hcase, hdense.insertionSort_descending, ← List.head?_reverse]
    dsimp only
    have hreversed := List.forall₂_reverse_iff.mpr hrebuilt
    rcases hrows : (decisionRows (run a w requests).system.db caseId).reverse with _ | ⟨row, rest⟩
    · rw [hrows, List.forall₂_nil_left_iff] at hreversed
      rw [hreversed]
      rfl
    · rw [hrows] at hreversed
      obtain ⟨answer, others, hanswer, -, hanswersReversed⟩ := List.forall₂_cons_left_iff.mp hreversed
      rw [hanswersReversed, List.head?_cons, List.head?_cons]
      dsimp only
      rw [hanswer]
      rfl
  · have hversions : (decisionRows (run a w requests).system.db caseId).map
        (fun row => row.1.decisionVersion) = answers.map CaseRecommendationDTO.decisionVersion := by
      rw [← List.forall₂_eq_eq_eq, List.forall₂_map_left_iff, List.forall₂_map_right_iff]
      exact hanswers.imp fun _ _ h => h.2.2.symm
    rw [← hversions, hdense, List.length_map, hanswers.length_eq]

end ApiWorld

namespace Sample

theorem stepwise_fourPlaces (z : ℚ) {steps : List (ℚ × ℚ)}
    (h : ∀ step ∈ steps, FourPlaces step.2) : FourPlaces (stepwise z steps) := by
  unfold stepwise
  induction steps with
  | nil => exact ⟨0, by norm_num⟩
  | cons step rest ih =>
    have hrest := ih fun other hother => h other (List.mem_cons_of_mem _ hother)
    rw [List.foldr_cons]
    split_ifs
    · exact (h step List.mem_cons_self).max hrest
    · exact hrest

theorem numerics_fourPlaces (z : ℚ) : FourPlaces (numerics.logistic z) := by
  refine stepwise_fourPlaces z fun step hstep => ⟨roundHalfEven (step.2 * 10000), ?_⟩
  revert step
  decide +kernel

end Sample

/-- The operator is shown the recommendation of the retry. -/
theorem ApiWorld.history_shows_answers_retry : ∃ answers,
    getRecommendationHistory Sample.noon (fun _ => none)
      (auditRecords Sample.application Sample.quietWorld Sample.retryRequests)
      (run Sample.application Sample.quietWorld Sample.retryRequests).system.db 0 =
        .ok (some answers) ∧ answers.length = 1 := by
  obtain ⟨-, hrun⟩ := Sample.operatorRequests_genuine Sample.retryRoutes World.empty
  have hdb : (run Sample.application Sample.quietWorld Sample.retryRequests).system =
      Run.after Sample.serveOperator World.empty Sample.retryRoutes := by
    rw [Sample.retryRequests, run, Run.after_cons, Sample.step_operatorLogin, ← run, hrun]
  have hstored : (decisionRows (run Sample.application Sample.quietWorld
      Sample.retryRequests).system.db 0).length = 1 ∧
        ((run Sample.application Sample.quietWorld
          Sample.retryRequests).system.db.recoveryCases[0]?.isSome = true) := by
    rw [hdb]
    decide +kernel
  obtain ⟨hlength, hcase⟩ := hstored
  obtain ⟨case, hcase⟩ := Option.isSome_iff_exists.mp hcase
  obtain ⟨answers, hhistory, -, -, hanswers⟩ := history_shows_answers
    (a := Sample.application) (w := Sample.quietWorld) Sample.numerics_fourPlaces rfl
    Sample.retryRequests hcase Sample.noon fun _ => none
  exact ⟨answers, hhistory, hanswers.length_eq.symm.trans hlength⟩

end RevenueRescue
