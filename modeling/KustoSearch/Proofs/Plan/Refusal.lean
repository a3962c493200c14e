import KustoSearch.Plan.Aggregation
import KustoSearch.Proofs.Outcome

/-! # The first node without a plan

Planning goes through the nodes of a search in one order: the query before the aggregations, parts
before the whole, must, filter, should and must-not clauses in this order, and siblings as they
are declared. Every node has a rule of its own, which works on the plans of its parts. Main result:
a search has a plan if and only if all these rules succeed, and otherwise it fails as the first
node does whose rule fails (`Search.plan_settled`).
-/

namespace KustoSearch

open Kql (Predicate)

/-! ## Nodes in order -/

/-- A node of a search. -/
inductive SearchNode where
  | query (q : Query)
  | aggregation (a : Aggregation)

mutual

/-- The nodes of a query in the order of planning. -/
def Query.nodes : Query → List SearchNode
  | .bool must filter should mustNot minimum =>
    Query.nodesOfAll must ++ (Query.nodesOfAll filter ++ (Query.nodesOfAll should ++
      (Query.nodesOfAll mustNot ++ [.query (.bool must filter should mustNot minimum)])))
  | leaf => [.query leaf]

/-- The nodes of queries, one query after another. -/
def Query.nodesOfAll : List Query → List SearchNode
  | [] => []
  | query :: queries => query.nodes ++ Query.nodesOfAll queries

end

mutual

/-- The nodes of an aggregation in the order of planning. -/
def Aggregation.nodes : Aggregation → List SearchNode
  | .node name kind children =>
    Aggregation.nodesOfAll children ++ [.aggregation (.node name kind children)]

/-- The nodes of aggregations, one aggregation after another. -/
def Aggregation.nodesOfAll : List Aggregation → List SearchNode
  | [] => []
  | aggregation :: aggregations => aggregation.nodes ++ Aggregation.nodesOfAll aggregations

end

/-- The nodes of a search in the order of planning. -/
def Search.nodes (search : Search) : List SearchNode :=
  search.query.nodes ++ Aggregation.nodesOfAll search.aggregations

/-! ## The rule of a node -/

/-- Whether some predicates are those of some queries, one by one. -/
def Query.Translated (queries : List Query) (predicates : List Predicate) : Prop :=
  List.Forall₂ (fun query p => query.predicate = .ok p) queries predicates

/-- Whether the rule of a query comes to an outcome. The rule of a combination needs the predicates
of all its clauses. -/
def Query.RuleGives (outcome : Except Failure Predicate) : Query → Prop
  | .bool must filter should mustNot minimum =>
    ∃ musts filters shoulds mustNots, Query.Translated must musts ∧
      Query.Translated filter filters ∧ Query.Translated should shoulds ∧
      Query.Translated mustNot mustNots ∧
      Query.boolPredicate musts filters shoulds mustNots minimum = outcome
  | .matchAll => .ok (.constant true) = outcome
  | .matchNone => .ok (.constant false) = outcome
  | .range field lower upper format => Query.rangePredicate field lower upper format = outcome
  | .fullText field query operator phrase =>
    Query.fullTextPredicate field query operator phrase = outcome
  | .term field value ignoreCase => Query.termPredicate field value ignoreCase = outcome
  | .terms field values => Query.termsPredicate field values = outcome
  | .present field => .ok (.notEmpty field) = outcome
  | .startsWith field value => .ok (.test (.column field) .startsWith (.text value)) = outcome
  | .wildcard field pattern ignoreCase =>
    .ok (.test (.column field) .matchesRegex (.text (Kql.wildcardRegex pattern ignoreCase))) =
      outcome
  | .words query fields operator => Query.wordsPredicate query fields operator = outcome
  | .unimplemented unknown =>
    .error (.unsupported unknown.kind ("[" ++ unknown.dslName ++ "] queries are not supported")) =
      outcome

/-- Whether the rule of an aggregation comes to an outcome, from the plans of all its
sub-aggregations. -/
def Aggregation.RuleGives (outcome : Except Failure AggregationPlan) : Aggregation → Prop
  | .node name kind children =>
    ∃ plans, List.Forall₂ (fun child p => Aggregation.plan child = .ok p) children plans ∧
      Aggregation.planOf name kind plans = outcome

namespace SearchNode

/-- Whether the rule of a node succeeds on the plans of its parts. -/
def Passes : SearchNode → Prop
  | .query q => ∃ p, q.RuleGives (.ok p)
  | .aggregation a => ∃ p, a.RuleGives (.ok p)

/-- Whether the rule of a node fails on the plans of its parts. -/
def FailsWith (failure : Failure) : SearchNode → Prop
  | .query q => q.RuleGives (.error failure)
  | .aggregation a => a.RuleGives (.error failure)

/-- Whether a node is recognised and has no statement. -/
def IsUnimplemented : SearchNode → Prop
  | .query q => ∃ unknown, q = .unimplemented unknown
  | .aggregation a => ∃ name unknown children, a = .node name (.unimplemented unknown) children

end SearchNode

/-- Whether the first node of a list that does not pass fails in some way. -/
inductive FirstFailure (failure : Failure) : List SearchNode → Prop
  | here {node : SearchNode} {nodes : List SearchNode} (fails : node.FailsWith failure) :
      FirstFailure failure (node :: nodes)
  | later {node : SearchNode} {nodes : List SearchNode} (passes : node.Passes)
      (rest : FirstFailure failure nodes) : FirstFailure failure (node :: nodes)

/-! ## Rules and plans -/

theorem Query.predicates_eq_mapM (queries : List Query) :
    Query.predicates queries = queries.mapM Query.predicate := by
  induction queries with
  | nil => rfl
  | cons query queries ih =>
    rw [Query.predicates, List.mapM_cons, ih]
    rfl

theorem Query.predicates_eq_ok {queries : List Query} {ps : List Predicate} :
    Query.predicates queries = .ok ps ↔ Query.Translated queries ps := by
  rw [Query.predicates_eq_mapM, Outcome.mapM_eq_ok]
  rfl

theorem Aggregation.plans_eq_mapM (aggregations : List Aggregation) :
    Aggregation.plans aggregations = aggregations.mapM Aggregation.plan := by
  induction aggregations with
  | nil => rfl
  | cons aggregation aggregations ih =>
    rw [Aggregation.plans, List.mapM_cons, ih]
    rfl

theorem Aggregation.plans_eq_ok {aggregations : List Aggregation} {ps : List AggregationPlan} :
    Aggregation.plans aggregations = .ok ps ↔
      List.Forall₂ (fun a p => Aggregation.plan a = .ok p) aggregations ps := by
  rw [Aggregation.plans_eq_mapM, Outcome.mapM_eq_ok]

/-- A query whose rule comes to an outcome has this outcome. -/
theorem Query.predicate_of_ruleGives {query : Query} {outcome : Except Failure Predicate}
    (h : query.RuleGives outcome) : query.predicate = outcome := by
  cases query with
  | bool must filter should mustNot minimum =>
    obtain ⟨musts, filters, shoulds, mustNots, hmust, hfilter, hshould, hmustNot, rfl⟩ := h
    rw [Query.predicate, Query.predicates_eq_ok.mpr hmust, Query.predicates_eq_ok.mpr hfilter,
      Query.predicates_eq_ok.mpr hshould, Query.predicates_eq_ok.mpr hmustNot]
    rfl
  | _ => exact h

/-- An aggregation whose rule comes to an outcome has this outcome. -/
theorem Aggregation.plan_of_ruleGives {aggregation : Aggregation}
    {outcome : Except Failure AggregationPlan} (h : aggregation.RuleGives outcome) :
    aggregation.plan = outcome := by
  obtain ⟨name, kind, children⟩ := aggregation
  obtain ⟨plans, hplans, rfl⟩ := h
  rw [Aggregation.plan, Aggregation.plans_eq_ok.mpr hplans]
  rfl

theorem SearchNode.Passes.not_failsWith {node : SearchNode} {failure : Failure}
    (h : node.Passes) : ¬node.FailsWith failure := by
  intro hfails
  cases node with
  | query q =>
    obtain ⟨p, hp⟩ := h
    have := (Query.predicate_of_ruleGives hp).symm.trans (Query.predicate_of_ruleGives hfails)
    cases this
  | aggregation a =>
    obtain ⟨p, hp⟩ := h
    have := (Aggregation.plan_of_ruleGives hp).symm.trans (Aggregation.plan_of_ruleGives hfails)
    cases this

theorem SearchNode.FailsWith.unique {node : SearchNode} {failure other : Failure}
    (h : node.FailsWith failure) (hother : node.FailsWith other) : failure = other := by
  cases node with
  | query q =>
    have := (Query.predicate_of_ruleGives h).symm.trans (Query.predicate_of_ruleGives hother)
    cases this
    rfl
  | aggregation a =>
    have := (Aggregation.plan_of_ruleGives h).symm.trans (Aggregation.plan_of_ruleGives hother)
    cases this
    rfl

theorem SearchNode.IsUnimplemented.not_passes {node : SearchNode} (h : node.IsUnimplemented) :
    ¬node.Passes := by
  cases node with
  | query q =>
    obtain ⟨unknown, rfl⟩ := h
    rintro ⟨p, hp⟩
    cases hp
  | aggregation a =>
    obtain ⟨name, unknown, children, rfl⟩ := h
    rintro ⟨p, plans, _, hp⟩
    cases hp

theorem FirstFailure.unique {failure other : Failure} {nodes : List SearchNode}
    (h : FirstFailure failure nodes) (hother : FirstFailure other nodes) : failure = other := by
  induction h with
  | here hfails =>
    cases hother with
    | here hother => exact hfails.unique hother
    | later hpasses _ => exact absurd hfails hpasses.not_failsWith
  | later hpasses _ ih =>
    cases hother with
    | here hother => exact absurd hother hpasses.not_failsWith
    | later _ hrest => exact ih hrest

theorem FirstFailure.exists_not_passes {failure : Failure} {nodes : List SearchNode}
    (h : FirstFailure failure nodes) : ∃ node ∈ nodes, ¬node.Passes := by
  induction h with
  | here hfails => exact ⟨_, List.mem_cons_self, fun hpasses => hpasses.not_failsWith hfails⟩
  | later _ _ ih =>
    obtain ⟨node, hnode, hpasses⟩ := ih
    exact ⟨node, List.mem_cons_of_mem _ hnode, hpasses⟩

theorem FirstFailure.append {failure : Failure} {nodes : List SearchNode}
    (h : FirstFailure failure nodes) (more : List SearchNode) :
    FirstFailure failure (nodes ++ more) := by
  induction h with
  | here hfails => exact .here hfails
  | later hpasses _ ih => exact .later hpasses ih

theorem FirstFailure.behind {failure : Failure} {nodes more : List SearchNode}
    (hpass : ∀ node ∈ nodes, node.Passes) (h : FirstFailure failure more) :
    FirstFailure failure (nodes ++ more) := by
  induction nodes with
  | nil => exact h
  | cons node nodes ih =>
    exact .later (hpass node List.mem_cons_self)
      (ih fun n hn => hpass n (List.mem_cons_of_mem _ hn))

/-! ## Settling nodes in order -/

/-- Whether an outcome is what some nodes come to: all pass, or the first one that does not fails
in this way. -/
def Settles {α : Type} (nodes : List SearchNode) : Except Failure α → Prop
  | .ok _ => ∀ node ∈ nodes, node.Passes
  | .error failure => FirstFailure failure nodes

namespace Settles

variable {α β : Type} {nodes more : List SearchNode}

/-- Nodes are settled one list after another. -/
theorem bind {x : Except Failure α} {f : α → Except Failure β} (hx : Settles nodes x)
    (hf : ∀ a, x = .ok a → Settles more (f a)) : Settles (nodes ++ more) (x >>= f) := by
  cases x with
  | error failure => exact FirstFailure.append hx more
  | ok a =>
    show Settles (nodes ++ more) (f a)
    have hmore := hf a rfl
    cases hfa : f a with
    | error failure =>
      rw [hfa] at hmore
      exact FirstFailure.behind hx hmore
    | ok b =>
      rw [hfa] at hmore
      intro node hnode
      rcases List.mem_append.mp hnode with hnode | hnode
      · exact hx node hnode
      · exact hmore node hnode

theorem nil (a : α) : Settles [] (.ok a : Except Failure α) := by
  intro node hnode
  cases hnode

/-- A node that is settled by its rule. -/
theorem single {node : SearchNode} {x : Except Failure α} (hok : ∀ a, x = .ok a → node.Passes)
    (herror : ∀ failure, x = .error failure → node.FailsWith failure) : Settles [node] x := by
  cases x with
  | error failure => exact .here (herror failure rfl)
  | ok a =>
    intro other hother
    rw [List.mem_singleton.mp hother]
    exact hok a rfl

theorem eq_error_iff {x : Except Failure α} (h : Settles nodes x) (failure : Failure) :
    x = .error failure ↔ FirstFailure failure nodes := by
  cases x with
  | error other =>
    constructor
    · intro hx
      cases hx
      exact h
    · intro hfirst
      rw [FirstFailure.unique h hfirst]
  | ok a =>
    constructor
    · intro hx
      cases hx
    · intro hfirst
      obtain ⟨node, hnode, hpasses⟩ := hfirst.exists_not_passes
      exact absurd (h node hnode) hpasses

theorem exists_eq_ok_iff {x : Except Failure α} (h : Settles nodes x) :
    (∃ a, x = .ok a) ↔ ∀ node ∈ nodes, node.Passes := by
  cases x with
  | error failure =>
    constructor
    · rintro ⟨a, ha⟩
      cases ha
    · intro hpass
      obtain ⟨node, hnode, hpasses⟩ := FirstFailure.exists_not_passes h
      exact absurd (hpass node hnode) hpasses
  | ok a => exact iff_of_true ⟨a, rfl⟩ h

end Settles

theorem Query.settles_leaf {query : Query} (hnodes : query.nodes = [.query query])
    (hrule : ∀ outcome, query.predicate = outcome → query.RuleGives outcome) :
    Settles query.nodes query.predicate := by
  rw [hnodes]
  exact Settles.single (fun p hp => ⟨p, hrule _ hp⟩) fun _ hfailure => hrule _ hfailure

mutual

theorem Query.settles_predicate : (query : Query) → Settles query.nodes query.predicate
  | .bool must filter should mustNot minimum => by
    rw [Query.nodes, Query.predicate]
    refine (Query.settles_predicates must).bind fun musts hmust => ?_
    refine (Query.settles_predicates filter).bind fun filters hfilter => ?_
    refine (Query.settles_predicates should).bind fun shoulds hshould => ?_
    refine (Query.settles_predicates mustNot).bind fun mustNots hmustNot => ?_
    -- all clauses have their predicates, so the rest is the rule of the combination
    have hrule : ∀ outcome,
        Query.boolPredicate musts filters shoulds mustNots minimum = outcome →
          (Query.bool must filter should mustNot minimum).RuleGives outcome := fun _ h =>
      ⟨musts, filters, shoulds, mustNots, Query.predicates_eq_ok.mp hmust,
        Query.predicates_eq_ok.mp hfilter, Query.predicates_eq_ok.mp hshould,
        Query.predicates_eq_ok.mp hmustNot, h⟩
    exact Settles.single (fun p hp => ⟨p, hrule _ hp⟩) fun _ hfailure => hrule _ hfailure
  | .matchAll => Query.settles_leaf rfl fun _ h => h
  | .matchNone => Query.settles_leaf rfl fun _ h => h
  | .range .. => Query.settles_leaf rfl fun _ h => h
  | .fullText .. => Query.settles_leaf rfl fun _ h => h
  | .term .. => Query.settles_leaf rfl fun _ h => h
  | .terms .. => Query.settles_leaf rfl fun _ h => h
  | .present _ => Query.settles_leaf rfl fun _ h => h
  | .startsWith .. => Query.settles_leaf rfl fun _ h => h
  | .wildcard .. => Query.settles_leaf rfl fun _ h => h
  | .words .. => Query.settles_leaf rfl fun _ h => h
  | .unimplemented _ => Query.settles_leaf rfl fun _ h => h

theorem Query.settles_predicates :
    (queries : List Query) → Settles (Query.nodesOfAll queries) (Query.predicates queries)
  | [] => Settles.nil []
  | query :: queries => by
    rw [Query.nodesOfAll, Query.predicates]
    refine (Query.settles_predicate query).bind fun p _ => ?_
    rw [← List.append_nil (Query.nodesOfAll queries)]
    exact (Query.settles_predicates queries).bind fun ps _ => Settles.nil (p :: ps)

end

mutual

theorem Aggregation.settles_plan :
    (aggregation : Aggregation) → Settles aggregation.nodes aggregation.plan
  | .node name kind children => by
    rw [Aggregation.nodes, Aggregation.plan]
    refine (Aggregation.settles_plans children).bind fun plans hplans => ?_
    have hrule : ∀ outcome, Aggregation.planOf name kind plans = outcome →
        (Aggregation.node name kind children).RuleGives outcome := fun _ h =>
      ⟨plans, Aggregation.plans_eq_ok.mp hplans, h⟩
    exact Settles.single (fun p hp => ⟨p, hrule _ hp⟩) fun _ hfailure => hrule _ hfailure

theorem Aggregation.settles_plans : (aggregations : List Aggregation) →
    Settles (Aggregation.nodesOfAll aggregations) (Aggregation.plans aggregations)
  | [] => Settles.nil []
  | aggregation :: aggregations => by
    rw [Aggregation.nodesOfAll, Aggregation.plans]
    refine (Aggregation.settles_plan aggregation).bind fun p _ => ?_
    rw [← List.append_nil (Aggregation.nodesOfAll aggregations)]
    exact (Aggregation.settles_plans aggregations).bind fun ps _ => Settles.nil (p :: ps)

end

theorem Search.settles_plan (search : Search) : Settles search.nodes search.plan := by
  rw [Search.nodes, Search.plan]
  refine (Query.settles_predicate search.query).bind fun filter _ => ?_
  rw [← List.append_nil (Aggregation.nodesOfAll search.aggregations)]
  exact (Aggregation.settles_plans search.aggregations).bind fun plans _ => Settles.nil _

/-- A search fails as the first of its nodes does whose rule fails, and has a plan if and only if
the rules of all its nodes succeed. A node that has no statement makes it fail, wherever it is. -/
theorem Search.plan_settled (search : Search) :
    (∀ failure, search.plan = .error failure ↔ FirstFailure failure search.nodes) ∧
      ((∃ plan, search.plan = .ok plan) ↔ ∀ node ∈ search.nodes, node.Passes) ∧
      ((∃ node ∈ search.nodes, node.IsUnimplemented) →
        ∃ failure, search.plan = .error failure) := by
  have hsettles := search.settles_plan
  refine ⟨hsettles.eq_error_iff, hsettles.exists_eq_ok_iff, ?_⟩
  rintro ⟨node, hnode, hunimplemented⟩
  cases hplan : search.plan with
  | error failure => exact ⟨failure, rfl⟩
  | ok plan =>
    rw [hplan] at hsettles
    exact absurd (hsettles node hnode) hunimplemented.not_passes

/-- A search with two nodes that fail: an optional clause without a statement, which need not
match, and below a histogram an order that has none either. -/
def Search.refusedTwice : Search where
  index := "logs"
  query := .bool [.matchAll] [] [.unimplemented ⟨"RegexpClause", "regexp"⟩] [] (some (.count 0))
  aggregations := [.node "days" (.dateHistogram "ts" (.fixed 86400000) 0)
    [.node "hosts" (.terms "host" 10 (.byMetric "load" true) 1) []]]
  hits := ⟨0, 10, [], .all, true⟩

/-- The clause comes first, although it is optional. -/
theorem Search.plan_settled_refusedTwice :
    (∃ node ∈ refusedTwice.nodes, node.IsUnimplemented) ∧
      (∃ failure, refusedTwice.plan = .error failure) ∧
      FirstFailure (.unsupported "RegexpClause" "[regexp] queries are not supported")
        refusedTwice.nodes := by
  have hnode : ∃ node ∈ refusedTwice.nodes, node.IsUnimplemented :=
    ⟨.query (.unimplemented ⟨"RegexpClause", "regexp"⟩),
      by simp [refusedTwice, Search.nodes, Query.nodes, Query.nodesOfAll], ⟨_, rfl⟩⟩
  obtain ⟨hfirst, _, hunimplemented⟩ := plan_settled refusedTwice
  exact ⟨hnode, hunimplemented hnode, (hfirst _).mp rfl⟩

end KustoSearch
