import GotoAutomaton.Proofs.Graph.Adjacency

/-!
# Enumerations of a graph

A graph numbers its nodes in the order in which their states were first mentioned, and finds the
transitions out of a state and into it through the lists of edges at its node.  A table finds the
transitions out of a state through the positions in its row.  The two ways lead to the same
transitions.

A graph takes states and transitions in any order and any number of times, and keeps its nodes, its
edges and its index apart from each other.  Whatever is added, the index and the nodes stay inverse
to each other, nodes are numbered in the order of first mention, and everything that is listed at a
node is what going through the added transitions would find.

Main statements: what a built graph lists (`Faithful.outgoing_eq`, `Faithful.incoming_eq`,
`states_build`), which states it starts and ends with (`Faithful.mem_startStates_iff`,
`Faithful.mem_terminalStates_iff`), that the graph of a table agrees with the table
(`ofTable_agrees`), and what a graph keeps of its additions (`records_build`).
-/

namespace GotoAutomaton

namespace Graph

variable {σ : Type} {g : Graph σ}

theorem contains_iff_exists_node?
    {x : StateId} :
    g.contains x = true ↔ ∃ n, g.node? x = some n :=
  Option.isSome_iff_exists

/-- The node of a state is there and carries it. -/
theorem Faithful.exists_node
    (hg : g.Faithful)
    {x : StateId}
    {n : Nat}
    (hx : g.node? x = some n) :
    ∃ node, g.nodes[n]? = some node ∧ node.state = x :=
  Option.map_eq_some_iff.1 ((hg.node?_iff x n).1 hx)

section Ends

/-! An edge is joined to a node by one of its ends.  Both ends are treated alike: `side` gives the
state at the end of a transition, and `joint` the node at the same end of an edge. -/

variable {side : Transition σ → StateId} {joint : Edge σ → Nat} {x : StateId}

/-- An edge ends at the node of a state if its transition ends at the state. -/
theorem Faithful.joint_eq_iff
    (hg : g.Faithful)
    (hjoint : ∀ e ∈ g.edges.toList, g.node? (side e.transition) = some (joint e))
    {n : Nat}
    (hx : g.node? x = some n)
    {e : Edge σ}
    (he : e ∈ g.edges.toList) :
    joint e = n ↔ side e.transition = x := by
  constructor
  · rintro rfl
    exact hg.node?_injective (hjoint e he) hx
  · rintro rfl
    rw [hjoint e he, Option.some.injEq] at hx
    exact hx

theorem Faithful.filter_joint_eq
    (hg : g.Faithful)
    (hjoint : ∀ e ∈ g.edges.toList, g.node? (side e.transition) = some (joint e))
    {n : Nat}
    (hx : g.node? x = some n) :
    (g.edges.toList.filter fun e => joint e = n) =
      g.edges.toList.filter fun e => side e.transition = x := by
  refine List.filter_congr fun e he => ?_
  rw [decide_eq_decide]
  exact hg.joint_eq_iff hjoint hx he

/-- The edges at the node of a state carry the transitions with this state at the same end. -/
theorem Faithful.filterMap_latest_joint
    (hg : g.Faithful)
    (hjoint : ∀ e ∈ g.edges.toList, g.node? (side e.transition) = some (joint e))
    {n : Nat}
    (hx : g.node? x = some n) :
    (latest (fun e => joint e = n) g.edges.toList).filterMap
        (fun i => g.edges[i]?.map Edge.transition) =
      (g.transitions.filter fun t => side t = x).reverse := by
  calc
    (latest (fun e => joint e = n) g.edges.toList).filterMap
        (fun i => g.edges[i]?.map Edge.transition)
      = ((g.edges.toList.filter fun e => joint e = n).map Edge.transition).reverse := by
        rw [← filterMap_latest]
        simp
    _ = ((g.edges.toList.filter fun e => side e.transition = x).map Edge.transition).reverse := by
        rw [hg.filter_joint_eq hjoint hx]
    _ = (g.transitions.filter fun t => side t = x).reverse := by
        rw [transitions, List.filter_map]
        rfl

/-- There is no transition at a state without a node. -/
theorem filter_transitions_of_node?_eq_none
    (hjoint : ∀ e ∈ g.edges.toList, g.node? (side e.transition) = some (joint e))
    (hx : g.node? x = none) :
    (g.transitions.filter fun t => side t = x) = [] := by
  rw [List.filter_eq_nil_iff]
  intro t ht
  obtain ⟨e, he, rfl⟩ := List.mem_map.1 ht
  rw [decide_eq_true_eq]
  rintro rfl
  rw [hjoint e he] at hx
  cases hx

/-- The node of a state lists no edges at one end if no transition has the state at this end. -/
theorem Faithful.latest_joint_eq_nil_iff
    (hg : g.Faithful)
    (hjoint : ∀ e ∈ g.edges.toList, g.node? (side e.transition) = some (joint e))
    {n : Nat}
    (hx : g.node? x = some n) :
    latest (fun e => joint e = n) g.edges.toList = [] ↔ ∀ t ∈ g.transitions, side t ≠ x := by
  rw [latest_eq_nil_iff, transitions, List.forall_mem_map]
  refine forall₂_congr fun e he => ?_
  rw [decide_eq_false_iff_not, hg.joint_eq_iff hjoint hx he]

/-- The sorted states whose nodes list no edges at one end. -/
theorem Faithful.mem_sort_filter_nodes
    (hg : g.Faithful)
    (hjoint : ∀ e ∈ g.edges.toList, g.node? (side e.transition) = some (joint e))
    {lists : Node → List Nat}
    (hlists : ∀ n node, g.nodes[n]? = some node →
      lists node = latest (fun e => joint e = n) g.edges.toList) :
    x ∈ StateId.sort ((g.nodes.toList.filter fun node => (lists node).isEmpty).map Node.state) ↔
      g.contains x = true ∧ ∀ t ∈ g.transitions, side t ≠ x := by
  simp only [StateId.mem_sort, List.mem_map, List.mem_filter, List.isEmpty_iff]
  constructor
  · rintro ⟨node, ⟨hnode, hempty⟩, rfl⟩
    obtain ⟨n, hn⟩ := List.mem_iff_getElem?.1 hnode
    rw [Array.getElem?_toList] at hn
    have hx : g.node? node.state = some n := by
      rw [hg.node?_iff, hn, Option.map_some]
    rw [hlists n node hn, hg.latest_joint_eq_nil_iff hjoint hx] at hempty
    exact ⟨contains_iff_exists_node?.2 ⟨n, hx⟩, hempty⟩
  · rintro ⟨hcontains, hempty⟩
    obtain ⟨n, hx⟩ := contains_iff_exists_node?.1 hcontains
    obtain ⟨node, hnode, rfl⟩ := hg.exists_node hx
    rw [← hg.latest_joint_eq_nil_iff hjoint hx, ← hlists n node hnode] at hempty
    refine ⟨node, ⟨?_, hempty⟩, rfl⟩
    rw [List.mem_iff_getElem?]
    exact ⟨n, by rwa [Array.getElem?_toList]⟩

end Ends

/-- A start state is one to which no transition leads. -/
theorem Faithful.mem_startStates_iff
    (hg : g.Faithful)
    {x : StateId} :
    x ∈ g.startStates ↔ g.contains x = true ∧ ∀ t ∈ g.transitions, t.destination ≠ x :=
  hg.mem_sort_filter_nodes hg.target hg.incoming

/-- A terminal state is one from which no transition leads. -/
theorem Faithful.mem_terminalStates_iff
    (hg : g.Faithful)
    {x : StateId} :
    x ∈ g.terminalStates ↔ g.contains x = true ∧ ∀ t ∈ g.transitions, t.origin ≠ x :=
  hg.mem_sort_filter_nodes hg.source hg.outgoing

/-- The transitions out of a state are listed the latest first. -/
theorem Faithful.outgoing_eq
    (hg : g.Faithful)
    (x : StateId) :
    g.outgoing x = (g.transitions.filter fun t => t.origin = x).reverse := by
  cases hx : g.node? x with
  | none =>
      rw [filter_transitions_of_node?_eq_none hg.source hx]
      simp [Graph.outgoing, hx]
  | some n =>
      obtain ⟨node, hnode, -⟩ := hg.exists_node hx
      rw [← hg.filterMap_latest_joint hg.source hx, ← hg.outgoing n node hnode]
      simp [Graph.outgoing, hx, hnode]

/-- The transitions into a state are listed the latest first. -/
theorem Faithful.incoming_eq
    (hg : g.Faithful)
    (x : StateId) :
    g.incoming x = (g.transitions.filter fun t => t.destination = x).reverse := by
  cases hx : g.node? x with
  | none =>
      rw [filter_transitions_of_node?_eq_none hg.target hx]
      simp [Graph.incoming, hx]
  | some n =>
      obtain ⟨node, hnode, -⟩ := hg.exists_node hx
      rw [← hg.filterMap_latest_joint hg.target hx, ← hg.incoming n node hnode]
      simp [Graph.incoming, hx, hnode]

/-- The number of a node is the place of its state. -/
theorem Faithful.node?_eq_some_iff
    (hg : g.Faithful)
    {x : StateId}
    {n : Nat} :
    g.node? x = some n ↔ g.states[n]? = some x := by
  rw [hg.node?_iff, states, List.getElem?_map, Array.getElem?_toList]

theorem Faithful.mem_states_iff
    (hg : g.Faithful)
    {x : StateId} :
    x ∈ g.states ↔ ∃ n, g.node? x = some n := by
  rw [List.mem_iff_getElem?]
  simp only [hg.node?_eq_some_iff]

/-- The ends of transitions are states of the graph. -/
theorem Faithful.mem_states_of_mem_transitions
    (hg : g.Faithful)
    {t : Transition σ}
    (ht : t ∈ g.transitions) :
    t.origin ∈ g.states ∧ t.destination ∈ g.states := by
  obtain ⟨e, he, rfl⟩ := List.mem_map.1 ht
  exact ⟨hg.mem_states_iff.2 ⟨_, hg.source e he⟩, hg.mem_states_iff.2 ⟨_, hg.target e he⟩⟩

theorem Faithful.contains_iff
    (hg : g.Faithful)
    {x : StateId} :
    g.contains x = true ↔ x ∈ g.states := by
  rw [hg.mem_states_iff, contains_iff_exists_node?]

/-- A state that is located goes last unless it has been mentioned. -/
theorem Faithful.states_locate
    (hg : g.Faithful)
    {xs : List StateId}
    (hxs : g.states = distinct xs)
    (x : StateId) :
    (g.locate x).1.states = distinct (xs ++ [x]) := by
  have hmem : (∃ n, g.node? x = some n) ↔ x ∈ xs := by
    rw [← hg.mem_states_iff, hxs, mem_distinct]
  rw [distinct_concat, ← hxs]
  cases hx : g.node? x with
  | some n =>
      rw [locate_of_node? hx, if_pos (hmem.1 ⟨n, hx⟩)]
  | none =>
      have hnew : x ∉ xs := by
        rw [← hmem]
        rintro ⟨n, hn⟩
        rw [hx] at hn
        cases hn
      rw [locate_of_node?_eq_none hx, if_neg hnew]
      simp [Graph.withNode, states]

theorem states_connect
    (g : Graph σ)
    (source target : Nat)
    (t : Transition σ) :
    (g.connect source target t).states = g.states := by
  apply List.ext_getElem?
  intro n
  simp only [states, List.getElem?_map, Array.getElem?_toList, getElem?_nodes_connect,
    Option.map_map]
  rfl

/-- A transition mentions its origin and then its destination. -/
theorem Faithful.states_addTransition
    (hg : g.Faithful)
    {xs : List StateId}
    (hxs : g.states = distinct xs)
    (t : Transition σ) :
    (g.addTransition t).states = distinct (xs ++ t.endpoints) := by
  have horigin := hg.states_locate hxs t.origin
  have hdestination := (hg.locate t.origin).states_locate horigin t.destination
  rw [Graph.addTransition, states_connect, hdestination, List.append_assoc]
  rfl

/-- Nodes are numbered in the order in which additions mention their states. -/
theorem states_build (additions : List (Addition σ)) :
    (build additions).states = distinct (mentionedStates additions) := by
  have hfold (g : Graph σ) (xs : List StateId) (hg : g.Faithful) (hxs : g.states = distinct xs) :
      (additions.foldl add g).states = distinct (xs ++ mentionedStates additions) := by
    induction additions generalizing g xs with
    | nil =>
        simpa [mentionedStates] using hxs
    | cons a additions ih =>
        cases a with
        | state x =>
            have hrest := ih _ _ (hg.locate x) (hg.states_locate hxs x)
            simpa [mentionedStates, add, addState] using hrest
        | transition t =>
            have hrest := ih _ _ (hg.addTransition t) (hg.states_addTransition hxs t)
            simpa [mentionedStates, Transition.endpoints, add] using hrest
  exact hfold empty [] faithful_empty rfl

theorem nodup_states_build (additions : List (Addition σ)) : (build additions).states.Nodup := by
  rw [states_build]
  exact nodup_distinct _

theorem mentionedStates_map_transition (ts : List (Transition σ)) :
    mentionedStates (ts.map Addition.transition) = ts.flatMap Transition.endpoints := by
  induction ts with
  | nil =>
      rfl
  | cons t ts ih =>
      rw [List.map_cons, mentionedStates, ih]
      rfl

theorem states_ofTransitions (ts : List (Transition σ)) :
    (ofTransitions ts).states = distinct (ts.flatMap Transition.endpoints) := by
  rw [ofTransitions_eq_build, states_build, mentionedStates_map_transition]

theorem contains_ofTransitions_iff
    {ts : List (Transition σ)}
    {x : StateId} :
    (ofTransitions ts).contains x = true ↔ ∃ t ∈ ts, x = t.origin ∨ x = t.destination := by
  rw [(faithful_ofTransitions ts).contains_iff, states_ofTransitions, mem_distinct]
  simp [Transition.endpoints]

/-- The graph of a table and the table agree: out of a state and into it the graph has the table's
transitions, the latest first; it has the states that transitions mention, numbered in the order in
which they are first mentioned, an origin before its destination; and it has the transitions in the
order of the table, each as an edge between the nodes of its own states. -/
theorem ofTable_agrees
    [DecidableEq σ]
    [Symbol σ]
    {T : Table σ}
    (hT : T.Reachable) :
    let g := ofTable T
    (∀ x, g.outgoing x = (T.transitionsFrom x).reverse) ∧
    (∀ x, g.incoming x = (T.toList.filter fun t => t.destination = x).reverse) ∧
    (∀ x, g.contains x = true ↔ ∃ t ∈ T.toList, x = t.origin ∨ x = t.destination) ∧
    g.states = distinct (T.toList.flatMap Transition.endpoints) ∧
    (∀ x n, g.node? x = some n ↔ g.states[n]? = some x) ∧
    g.transitions = T.toList ∧
    ∀ e ∈ g.edges.toList,
      g.states[e.source]? = some e.transition.origin ∧
        g.states[e.target]? = some e.transition.destination := by
  intro g
  have hg : g.Faithful := faithful_ofTransitions T.toList
  have htransitions : g.transitions = T.toList := transitions_ofTransitions T.toList
  refine ⟨?_, ?_, ?_, ?_, ?_, htransitions, ?_⟩
  · intro x
    rw [hg.outgoing_eq, htransitions, hT.indexed.transitionsFrom_eq]
  · intro x
    rw [hg.incoming_eq, htransitions]
  · intro x
    exact contains_ofTransitions_iff
  · exact states_ofTransitions T.toList
  · intro x n
    exact hg.node?_eq_some_iff
  · intro e he
    exact ⟨hg.node?_eq_some_iff.1 (hg.source e he), hg.node?_eq_some_iff.1 (hg.target e he)⟩

/-- Two parallel transitions, a loop, and a state that is a destination only. -/
theorem ofTable_agrees_parallel :
    let q : StateId := ⟨.first, 0⟩
    let q' : StateId := ⟨.first, 1⟩
    let z : StateId := ⟨Tag.first.next, 7⟩
    let T := (Table.make .unowned : Table Char).after
      [.add q 'a' q', .add q 'b' q', .add q 'c' q, .add q' 'a' z]
    let g := ofTable T
    T.Reachable ∧
      g.outgoing q = [⟨q, 'c', q⟩, ⟨q, 'b', q'⟩, ⟨q, 'a', q'⟩] ∧
      g.incoming q' = [⟨q, 'b', q'⟩, ⟨q, 'a', q'⟩] ∧
      g.contains z = true ∧ g.states = [q, q', z] := by
  intro q q' z T g
  have hT : T.Reachable := ⟨.unowned, _, rfl⟩
  obtain ⟨houtgoing, hincoming, hcontains, hstates, _⟩ := ofTable_agrees hT
  refine ⟨hT, ?_, ?_, ?_, ?_⟩
  · rw [houtgoing]
    decide
  · rw [hincoming]
    decide
  · exact (hcontains z).2 ⟨⟨q', 'a', z⟩, by decide, Or.inr rfl⟩
  · rw [hstates]
    decide

/-- A graph shows nothing but its additions. -/
structure Records (g : Graph σ) (additions : List (Addition σ)) : Prop where
  /-- Nodes carry the mentioned states, numbered from zero in the order of first mention. -/
  states : g.states = distinct (mentionedStates additions)
  exists_node?_iff : ∀ x, (∃ n, g.node? x = some n) ↔ x ∈ mentionedStates additions
  /-- The node of a state is the one that carries it. -/
  node?_iff : ∀ x n, g.node? x = some n ↔ g.states[n]? = some x
  node?_injective : ∀ x y n, g.node? x = some n → g.node? y = some n → x = y
  /-- A known state is located where it is, and nothing changes. -/
  locate_known : ∀ x n, g.node? x = some n → g.locate x = (g, n)
  /-- An unknown state gets the next number. -/
  locate_unknown : ∀ x, g.node? x = none →
    (g.locate x).2 = g.states.length ∧ (g.locate x).1.states = g.states ++ [x]
  transitions : g.transitions = addedTransitions additions
  /-- An edge joins the nodes of its own transition. -/
  joins : ∀ e ∈ g.edges.toList,
    g.node? e.transition.origin = some e.source ∧ g.node? e.transition.destination = some e.target
  outgoing : ∀ x,
    g.outgoing x = ((addedTransitions additions).filter fun t => t.origin = x).reverse
  incoming : ∀ x,
    g.incoming x = ((addedTransitions additions).filter fun t => t.destination = x).reverse
  startStates : g.startStates.Pairwise StateId.Precedes ∧
    ∀ x, x ∈ g.startStates ↔ x ∈ mentionedStates additions ∧ g.incoming x = []
  terminalStates : g.terminalStates.Pairwise StateId.Precedes ∧
    ∀ x, x ∈ g.terminalStates ↔ x ∈ mentionedStates additions ∧ g.outgoing x = []

/-- Sorting the states of some of the nodes puts each strictly before the next. -/
theorem pairwise_sort_filter_nodes
    {g : Graph σ}
    (hg : g.states.Nodup)
    (p : Node → Bool) :
    (StateId.sort ((g.nodes.toList.filter p).map Node.state)).Pairwise StateId.Precedes := by
  have hsub : ((g.nodes.toList.filter p).map Node.state).Sublist g.states :=
    List.filter_sublist.map Node.state
  exact StateId.pairwise_precedes_sort (hg.sublist hsub)

/-- A state has nothing listed at one end if no transition has the state at this end. -/
theorem reverse_filter_side_eq_nil_iff
    {ts : List (Transition σ)}
    {side : Transition σ → StateId}
    {x : StateId} :
    (ts.filter fun t => side t = x).reverse = [] ↔ ∀ t ∈ ts, side t ≠ x := by
  rw [List.reverse_eq_nil_iff, List.filter_eq_nil_iff]
  simp only [decide_eq_true_eq, ne_eq]

theorem contains_build_iff
    {additions : List (Addition σ)}
    {x : StateId} :
    (build additions).contains x = true ↔ x ∈ mentionedStates additions := by
  rw [(faithful_build additions).contains_iff, states_build, mem_distinct]

/-- A new state goes last, and its node is numbered by its place. -/
theorem states_locate_of_node?_eq_none
    {g : Graph σ}
    {x : StateId}
    (hx : g.node? x = none) :
    (g.locate x).2 = g.states.length ∧ (g.locate x).1.states = g.states ++ [x] := by
  rw [locate_of_node?_eq_none hx]
  constructor
  · simp [states]
  · simp [withNode, states]

/-- Whatever is added to a graph, and however often, its index and its nodes stay inverse to each
other, with the nodes in the order of first mention; its edges are the added transitions, each
between the nodes of its own states; the transitions out of a state and into it are listed the
latest first; and the start and the terminal states are those without transitions at one end, in
strictly ascending order. -/
theorem records_build (additions : List (Addition σ)) :
    (build additions).Records additions := by
  have hg : (build additions).Faithful := faithful_build additions
  have hnodup : (build additions).states.Nodup := nodup_states_build additions
  have htransitions := transitions_build additions
  constructor
  case states =>
    exact states_build additions
  case exists_node?_iff =>
    intro x
    rw [← contains_build_iff, contains_iff_exists_node?]
  case node?_iff =>
    intro x n
    exact hg.node?_eq_some_iff
  case node?_injective =>
    intro x y n hx hy
    exact hg.node?_injective hx hy
  case locate_known =>
    intro x n hx
    exact locate_of_node? hx
  case locate_unknown =>
    intro x hx
    exact states_locate_of_node?_eq_none hx
  case transitions =>
    exact htransitions
  case joins =>
    intro e he
    exact ⟨hg.source e he, hg.target e he⟩
  case outgoing =>
    intro x
    rw [hg.outgoing_eq, htransitions]
  case incoming =>
    intro x
    rw [hg.incoming_eq, htransitions]
  case startStates =>
    refine ⟨pairwise_sort_filter_nodes hnodup _, fun x => ?_⟩
    rw [hg.mem_startStates_iff, contains_build_iff, hg.incoming_eq, reverse_filter_side_eq_nil_iff]
  case terminalStates =>
    refine ⟨pairwise_sort_filter_nodes hnodup _, fun x => ?_⟩
    rw [hg.mem_terminalStates_iff, contains_build_iff, hg.outgoing_eq,
      reverse_filter_side_eq_nil_iff]

/-- A loop mentions its state twice, but the state gets one node, which it keeps. -/
example :
    let q : StateId := ⟨.first, 1⟩
    let q' : StateId := ⟨.first, 0⟩
    let g : Graph Char :=
      build [.transition ⟨q, 'a', q⟩, .state q', .transition ⟨q', 'a', q⟩, .state q]
    g.states = [q, q'] ∧ g.incoming q = [⟨q', 'a', q⟩, ⟨q, 'a', q⟩] ∧
      (g.locate q).2 = 0 := by
  decide

end Graph

end GotoAutomaton
