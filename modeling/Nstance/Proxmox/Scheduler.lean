import Mathlib.Algebra.Order.BigOperators.Group.List
import Mathlib.Analysis.Real.Sqrt

/-!
# The choice of a node

`topsis.Rank` over the real numbers, and `selectNode`, which takes the first node with the
best score. A row of a matrix is the function of its indices. An alternative that is at least
as good on every criterion has at least the score of the other, and a node is never chosen
that another exceeds in both resources (`rank_respects_dominance`).
-/

namespace Nstance.Proxmox

noncomputable section

/-- A candidate with a metric for every criterion. -/
structure Alternative where
  id : String
  metrics : List ℝ

/-- A candidate with its score. -/
structure Result where
  id : String
  score : ℝ

/-- The metrics of a candidate, by criterion. -/
abbrev Row := Nat → ℝ

/-- The length of a column, or one. -/
def divisor (values : List ℝ) : ℝ :=
  let root := √(values.map fun x => x * x).sum
  if root = 0 then 1 else root

variable (alternatives : List Alternative)

/-- Divide every column by its length. -/
def normalize : List Row :=
  alternatives.map fun alt j =>
    alt.metrics.getD j 0 / divisor (alternatives.map fun alt => alt.metrics.getD j 0)

/-- Multiply every column by its weight. -/
def applyWeights (normalized : List Row) (weights : List ℝ) : List Row :=
  normalized.map fun row j => row j * weights.getD j 0

/-- The largest of the values, or the smallest; the infinity that the loop starts from is gone
after the first of them. -/
def extreme (largest : Bool) (values : List ℝ) : ℝ :=
  (if largest then values.max? else values.min?).getD 0

/-- The best and the worst of every column. -/
def findIdealSolutions (weighted : List Row) (benefits : List Bool) : Row × Row :=
  (fun j => extreme (benefits.getD j false) (weighted.map (· j)),
    fun j => extreme (!benefits.getD j false) (weighted.map (· j)))

/-- The Euclidean distance. -/
def distance (numCriteria : Nat) (row ideal : Row) : ℝ :=
  √((List.range numCriteria).map fun j => (row j - ideal j) * (row j - ideal j)).sum

/-- How much closer to the best than to the worst. -/
def closeness (distIdeal distAntiIdeal : ℝ) : ℝ :=
  if distIdeal + distAntiIdeal = 0 then 0 else distAntiIdeal / (distIdeal + distAntiIdeal)

/-- The closeness of every candidate. -/
def calculateScores (numCriteria : Nat) (weighted : List Row) (ideals : Row × Row) : List ℝ :=
  weighted.map fun row =>
    closeness (distance numCriteria row ideals.1) (distance numCriteria row ideals.2)

/-- The candidates by score, or why there is none. -/
def rank (weights : List ℝ) (benefits : List Bool) : Except String (List Result) :=
  match alternatives with
  | [] => .error "no alternatives provided"
  | first :: _ =>
    let numCriteria := first.metrics.length
    if numCriteria = 0 then .error "alternatives have no metrics"
    else if weights.length ≠ numCriteria then
      .error s!"weights length ({weights.length}) does not match metrics length ({numCriteria})"
    else if benefits.length ≠ numCriteria then
      .error s!"benefits length ({benefits.length}) does not match metrics length ({numCriteria})"
    else
      match alternatives.find? fun alt => alt.metrics.length ≠ numCriteria with
      | some alt =>
        .error s!"alternative {alt.id} has {alt.metrics.length} metrics, expected {numCriteria}"
      | none =>
        let weighted := applyWeights (normalize alternatives) weights
        let ideals := findIdealSolutions weighted benefits
        .ok (alternatives.zipWith (fun alt score => ⟨alt.id, score⟩)
          (calculateScores numCriteria weighted ideals))

/-! ## Scores -/

/-- At least as good, on a criterion where more is better or on one where less is. -/
def AsGood (benefit : Bool) (x y : ℝ) : Prop := if benefit then y ≤ x else x ≤ y

theorem asGood_extreme (benefit : Bool) {values : List ℝ} {x : ℝ} (mem : x ∈ values) :
    AsGood benefit (extreme benefit values) x ∧ AsGood benefit x (extreme (!benefit) values) := by
  have top : x ≤ extreme true values := by
    cases found : values.max? with
    | none => simp_all
    | some best => simpa [extreme, found] using (List.max?_eq_some_iff.mp found).2 x mem
  have bottom : extreme false values ≤ x := by
    cases found : values.min? with
    | none => simp_all
    | some worst => simpa [extreme, found] using (List.min?_eq_some_iff.mp found).2 x mem
  cases benefit with
  | true | false => simp [AsGood, top, bottom]

/-- The better of two values is nearer to the best and farther from the worst. -/
theorem AsGood.eq_or_closer {benefit : Bool} {x y best worst : ℝ} (good : AsGood benefit x y)
    (top : AsGood benefit best x) (bottom : AsGood benefit y worst) :
    x = y ∨ (x - best) * (x - best) < (y - best) * (y - best) ∧
      (y - worst) * (y - worst) < (x - worst) * (x - worst) := by
  refine or_iff_not_imp_left.mpr fun differ => ?_
  cases benefit with
  | true =>
    have less : y < x := lt_of_le_of_ne good (Ne.symm differ)
    simp only [AsGood, if_true] at top bottom
    constructor <;> nlinarith
  | false =>
    have less : x < y := lt_of_le_of_ne good differ
    simp only [AsGood, Bool.false_eq_true, if_false] at top bottom
    constructor <;> nlinarith

theorem distance_lt {n : Nat} {row other ideal : Row} (closer : ∀ j < n, row j = other j ∨
      (row j - ideal j) * (row j - ideal j) < (other j - ideal j) * (other j - ideal j))
    (differ : ∃ j < n, row j ≠ other j) : distance n row ideal < distance n other ideal := by
  refine Real.sqrt_lt_sqrt (List.sum_nonneg ?_) (List.sum_lt_sum _ _ (fun j mem => ?_) ?_)
  · simp only [List.mem_map]
    rintro _ ⟨j, _, rfl⟩
    exact mul_self_nonneg _
  · rcases closer j (List.mem_range.mp mem) with same | less
    · rw [same]
    · exact less.le
  · obtain ⟨j, small, differ⟩ := differ
    exact ⟨j, List.mem_range.mpr small, (closer j small).resolve_left differ⟩

theorem closeness_lt {near near' far far' : ℝ} (nonneg : 0 ≤ near) (nonneg' : 0 ≤ far')
    (nearer : near < near') (farther : far' < far) : closeness near' far' < closeness near far := by
  rw [closeness, closeness, if_neg (by linarith), if_neg (by linarith),
    div_lt_div_iff₀ (by linarith) (by linarith)]
  nlinarith

theorem divisor_pos (values : List ℝ) : 0 < divisor values := by
  rw [divisor]
  split
  · exact one_pos
  · exact lt_of_le_of_ne (Real.sqrt_nonneg _) (Ne.symm ‹_›)

/-- The arguments of a ranking. -/
structure Problem where
  alternatives : List Alternative
  weights : List ℝ
  benefits : List Bool

namespace Problem

variable (p : Problem)

/-- A matrix, with weights and flags that fit it. -/
structure Valid : Prop where
  present : p.alternatives ≠ []
  rectangular : ∀ alt ∈ p.alternatives, alt.metrics.length = p.weights.length
  flags : p.benefits.length = p.weights.length
  nonneg : ∀ weight ∈ p.weights, 0 ≤ weight

/-- As good in every criterion. -/
def Dominates (alt other : Alternative) : Prop := ∀ j < p.weights.length,
  AsGood (p.benefits.getD j false) (alt.metrics.getD j 0) (other.metrics.getD j 0)

variable (alt : Alternative)

/-- The row of an alternative after both steps of the scaling. -/
def weighed : Row := fun j =>
  alt.metrics.getD j 0 / divisor (p.alternatives.map (·.metrics.getD j 0)) * p.weights.getD j 0

/-- The best and the worst of the columns. -/
def ideals : Row × Row := findIdealSolutions (p.alternatives.map p.weighed) p.benefits

/-- The score of a candidate. -/
def score : ℝ :=
  closeness (distance p.weights.length (p.weighed alt) p.ideals.1)
    (distance p.weights.length (p.weighed alt) p.ideals.2)

theorem score_mem : 0 ≤ p.score alt ∧ p.score alt ≤ 1 := by
  rw [score, closeness]
  split
  · exact ⟨le_rfl, zero_le_one⟩
  · simp only [distance]
    refine ⟨by positivity, div_le_one_of_le₀ ?_ (by positivity)⟩
    exact le_add_of_nonneg_left (Real.sqrt_nonneg _)

variable {p}

theorem rank_eq (valid : p.Valid) (criteria : p.weights ≠ []) :
    rank p.alternatives p.weights p.benefits =
      .ok (p.alternatives.map fun alt => ⟨alt.id, p.score alt⟩) := by
  obtain ⟨alternatives, weights, benefits⟩ := p
  obtain ⟨present, rectangular, flags, _⟩ := valid
  have scaled : applyWeights (normalize alternatives) weights =
      alternatives.map (weighed ⟨alternatives, weights, benefits⟩) := List.map_map
  cases alternatives with
  | nil => exact absurd rfl present
  | cons first rest =>
    have wide := rectangular first List.mem_cons_self
    have same : (first :: rest).find? (fun alt => alt.metrics.length ≠ weights.length) = none :=
      List.find?_eq_none.mpr fun alt mem => by simpa using rectangular alt mem
    have some_criterion : weights.length ≠ 0 := by simpa using criteria
    simp only [rank, wide, some_criterion, flags, same, scaled, ne_eq, not_true_eq_false, if_false]
    simp [calculateScores, score, ideals, List.zipWith_map_right, List.zipWith_self]

theorem weighed_mono (valid : p.Valid) {benefit : Bool} {j : Nat} {alt other : Alternative}
    (good : AsGood benefit (alt.metrics.getD j 0) (other.metrics.getD j 0)) :
    AsGood benefit (p.weighed alt j) (p.weighed other j) := by
  have weight : 0 ≤ p.weights.getD j 0 := by
    rw [List.getD_eq_getElem?_getD]
    cases stored : p.weights[j]? with
    | none => exact le_rfl
    | some weight => exact valid.nonneg weight (List.mem_of_getElem? stored)
  cases benefit with
  | true | false =>
    exact mul_le_mul_of_nonneg_right (div_le_div_of_nonneg_right good (divisor_pos _).le) weight

section

variable (valid : p.Valid) {alt other : Alternative} (here : alt ∈ p.alternatives)
  (there : other ∈ p.alternatives) (good : p.Dominates alt other)
include valid here there good

theorem score_lt (differ : ∃ j < p.weights.length, p.weighed alt j ≠ p.weighed other j) :
    p.score other < p.score alt := by
  have value : ∀ {alt}, alt ∈ p.alternatives → ∀ j,
      p.weighed alt j ∈ (p.alternatives.map p.weighed).map (· j) :=
    fun mem j => List.mem_map_of_mem (List.mem_map_of_mem mem)
  have closer := fun j small => (weighed_mono valid (good j small)).eq_or_closer
    (asGood_extreme _ (value here j)).1 (asGood_extreme _ (value there j)).2
  refine closeness_lt (Real.sqrt_nonneg _) (Real.sqrt_nonneg _) ?_ ?_
  · exact distance_lt (fun j small => (closer j small).imp_right And.left) differ
  · exact distance_lt (fun j small => (closer j small).imp Eq.symm And.right)
      (differ.imp fun _ => And.imp_right Ne.symm)

theorem score_le : p.score other ≤ p.score alt := by
  by_cases differ : ∃ j < p.weights.length, p.weighed alt j ≠ p.weighed other j
  · exact (score_lt valid here there good differ).le
  -- Rows that are scaled alike are at the same distances.
  have equal : ∀ ideal, distance p.weights.length (p.weighed other) ideal =
      distance p.weights.length (p.weighed alt) ideal := by
    intro ideal
    rw [distance, distance]
    congr 2
    refine List.map_congr_left fun j mem => ?_
    rw [not_ne_iff.mp fun apart => differ ⟨j, List.mem_range.mp mem, apart⟩]
  rw [score, score, equal, equal]

end

theorem extreme_perm {values values' : List ℝ} (perm : values.Perm values') (largest : Bool) :
    extreme largest values = extreme largest values' := by
  have top : values.max? = values'.max? :=
    Option.ext fun x => by simp [List.max?_eq_some_iff, perm.mem_iff]
  have bottom : values.min? = values'.min? :=
    Option.ext fun x => by simp [List.min?_eq_some_iff, perm.mem_iff]
  rw [extreme, top, bottom, extreme]

theorem score_perm {permuted : List Alternative} (perm : permuted.Perm p.alternatives) :
    score { p with alternatives := permuted } = p.score := by
  have scales : weighed { p with alternatives := permuted } = p.weighed := by
    funext alt j
    rw [weighed, weighed, divisor, divisor, ((perm.map _).map _).sum_eq]
  have targets : ideals { p with alternatives := permuted } = p.ideals := by
    simp only [ideals, findIdealSolutions, scales, extreme_perm ((perm.map _).map _)]
  funext alt
  rw [score, score, scales, targets]

end Problem

/-! ## The choice -/

/-- What the API says of a resource. -/
structure ClusterResource where
  node : String
  type : String
  status : String
  cpu : ℝ
  maxCPU : Nat
  mem : Nat
  maxMem : Nat

namespace ClusterResource

variable (res : ClusterResource)

/-- A node that can be chosen. -/
def considered : Bool :=
  res.type = "node" && res.status = "online" && res.maxCPU ≠ 0 && res.maxMem ≠ 0

/-- Free CPU, in percent. -/
def availCPU : ℝ := 100 - res.cpu * 100

/-- Free memory, in percent. -/
def availMem : ℝ := 100 - (res.mem / res.maxMem) * 100

/-- A node as a candidate. -/
def alternative : Alternative := ⟨res.node, [res.availCPU, res.availMem]⟩

end ClusterResource

/-- One result in the loop of `selectNode`. -/
def better (best : ℝ × String) (r : Result) : ℝ × String :=
  if r.score > best.1 then (r.score, r.id) else best

/-- The best candidate; one alone needs no ranking. -/
def selectedNodeName : List Alternative → Except String String
  | [] => .error "no online nodes available"
  | [alt] => .ok alt.id
  | alternatives =>
    match rank alternatives [1, 1] [true, true] with
    | .error err => .error s!"failed to rank nodes: {err}"
    | .ok results => .ok (results.foldl better (-1, "")).2

/-- `selectNode`, with the answers of the client. -/
def selectNode {Node : Type} (cluster : Except String Unit)
    (resources : Except String (List ClusterResource)) (client : String → Except String Node) :
    Except String Node :=
  match cluster, resources with
  | .error err, _ => .error s!"failed to get cluster: {err}"
  | .ok _, .error err => .error s!"failed to get node resources: {err}"
  | .ok _, .ok [] => .error "no nodes available in cluster"
  | .ok _, .ok resources =>
    match selectedNodeName ((resources.filter (·.considered)).map (·.alternative)) with
    | .error err => .error err
    | .ok name => (client name).mapError fun err => s!"failed to get selected node: {err}"

/-- The loop ends with the first of the best results, if one is better than what it starts from. -/
theorem foldl_better (f : Alternative → ℝ) (alternatives : List Alternative) (best : ℝ × String) :
    let last := (alternatives.map fun alt => ⟨alt.id, f alt⟩).foldl better best
    last = best ∧ (∀ alt ∈ alternatives, f alt ≤ best.1) ∨
      ∃ alt ∈ alternatives, last = (f alt, alt.id) ∧ best.1 < f alt ∧
        ∀ other ∈ alternatives, f other ≤ f alt := by
  induction alternatives generalizing best with
  | nil => simp
  | cons first rest ih =>
    by_cases above : best.1 < f first
    · have found := ih (f first, first.id)
      simp only [List.map_cons, List.foldl_cons, better, gt_iff_lt, above, if_true]
      grind
    · have found := ih best
      simp only [List.map_cons, List.foldl_cons, better, gt_iff_lt, above, if_false]
      grind

theorem selected_undominated {nodes : List ClusterResource} {name : String}
    (selected : selectedNodeName (nodes.map (·.alternative)) = .ok name) :
    ∃ picked ∈ nodes, picked.node = name ∧ ∀ other ∈ nodes,
      ¬ (picked.availCPU < other.availCPU ∧ picked.availMem < other.availMem) := by
  rcases nodes with _ | ⟨first, _ | ⟨second, rest⟩⟩
  · cases selected
  · -- A single node is not ranked.
    cases selected
    simp [ClusterResource.alternative]
  let p : Problem := ⟨(first :: second :: rest).map (·.alternative), [1, 1], [true, true]⟩
  have valid : p.Valid := ⟨by simp [p], by simp [p, ClusterResource.alternative], rfl, by simp [p]⟩
  have ranked := p.rank_eq valid (by simp [p])
  have chosen : ((p.alternatives.map fun alt => ⟨alt.id, p.score alt⟩).foldl better (-1, "")).2 =
      name := by
    simp only [p, List.map_cons] at ranked
    simp only [selectedNodeName, List.map_cons, ranked] at selected
    exact Except.ok.inj selected
  rcases foldl_better p.score p.alternatives (-1, "") with ⟨_, low⟩ | ⟨alt, mem, last, _, bound⟩
  · have := low first.alternative (by simp [p])
    linarith [(p.score_mem first.alternative).1]
  · obtain ⟨picked, here, rfl⟩ := List.mem_map.mp mem
    rw [last] at chosen
    refine ⟨picked, here, chosen, fun other there ⟨cpu, ram⟩ => ?_⟩
    have member := List.mem_map_of_mem (f := (·.alternative)) there
    refine absurd (bound _ member) (not_le.mpr (Problem.score_lt valid member mem ?_
      ⟨0, by simp [p], ?_⟩))
    · rintro (_ | _ | j) small
      · simpa [AsGood, ClusterResource.alternative, p] using cpu.le
      · simpa [AsGood, ClusterResource.alternative, p] using ram.le
      · exact absurd small (by simp [p])
    · simp [Problem.weighed, p, ClusterResource.alternative, div_left_inj' (divisor_pos _).ne',
        cpu.ne']

/-- **TOPSIS respects dominance.** The scores lie between 0 and 1, go with the alternatives in
whatever order they are given, and are at least as high for an alternative that dominates; a
node that `selectNode` picks is not exceeded in both resources. -/
theorem rank_respects_dominance {p : Problem} {Node : Type} {cluster : Except String Unit}
    {resources : Except String (List ClusterResource)} {client : String → Except String Node}
    (valid : p.Valid) :
    (p.weights = [] →
      rank p.alternatives p.weights p.benefits = .error "alternatives have no metrics") ∧
    (p.weights ≠ [] → ∃ score : Alternative → ℝ,
      (∀ permuted, permuted.Perm p.alternatives →
        rank permuted p.weights p.benefits = .ok (permuted.map fun alt => ⟨alt.id, score alt⟩)) ∧
      (∀ alt ∈ p.alternatives, 0 ≤ score alt ∧ score alt ≤ 1) ∧
      ∀ alt ∈ p.alternatives, ∀ other ∈ p.alternatives,
        p.Dominates alt other → score other ≤ score alt) ∧
    ∀ node, selectNode cluster resources client = .ok node →
      ∃ nodes, resources = .ok nodes ∧ ∃ picked ∈ nodes, picked.considered = true ∧
        client picked.node = .ok node ∧ ∀ other ∈ nodes, other.considered = true →
          ¬ (picked.availCPU < other.availCPU ∧ picked.availMem < other.availMem) := by
  refine ⟨fun bare => ?_, fun criteria => ⟨p.score, ?_, fun alt _ => p.score_mem alt,
    fun _ here _ there => Problem.score_le valid here there⟩, fun node selected => ?_⟩
  · obtain ⟨alternatives, weights, benefits⟩ := p
    subst bare
    cases alternatives with
    | nil => exact absurd rfl valid.present
    | cons first rest => simp [rank, valid.rectangular first List.mem_cons_self]
  · intro permuted perm
    rw [← Problem.score_perm perm]
    refine Problem.rank_eq (p := { p with alternatives := permuted }) ⟨?_, fun alt mem =>
      valid.rectangular alt (perm.mem_iff.mp mem), valid.flags, valid.nonneg⟩ criteria
    rintro rfl
    exact valid.present perm.nil_eq.symm
  · unfold selectNode at selected
    split at selected
    · cases selected
    · cases selected
    · cases selected
    · split at selected
      · cases selected
      · rename_i name named
        obtain ⟨picked, mem, rfl, undominated⟩ := selected_undominated named
        obtain ⟨here, considered⟩ := List.mem_filter.mp mem
        refine ⟨_, rfl, picked, here, considered, ?_, fun other there also =>
          undominated other (List.mem_filter.mpr ⟨there, also⟩)⟩
        cases answer : client picked.node with
        | error =>
          rw [answer] at selected
          cases selected
        | ok =>
          rw [answer] at selected
          exact selected

/-- A node without load. -/
def idle : ClusterResource := ⟨"n1", "node", "online", 0, 4, 0, 8⟩

/-- A node of the same size at half load. -/
def busy : ClusterResource := ⟨"n2", "node", "online", 1 / 2, 4, 4, 8⟩

theorem selectNode_busy_idle :
    ∃ name, selectNode (.ok ()) (.ok [busy, idle]) Except.ok = .ok name := by
  have both : [busy, idle].filter (·.considered) = [busy, idle] := by
    simp [busy, idle, ClusterResource.considered]
  have ranked := Problem.rank_eq (p := ⟨[busy.alternative, idle.alternative], [1, 1],
    [true, true]⟩) ⟨by simp, by simp [ClusterResource.alternative], rfl, by simp⟩ (by simp)
  dsimp only at ranked
  simp only [selectNode, both, List.map_cons, List.map_nil, selectedNodeName, ranked]
  exact ⟨_, rfl⟩

theorem two_alternatives_and_idle :
    (∃ score : Alternative → ℝ, score ⟨"b", [1]⟩ ≤ score ⟨"a", [2]⟩ ∧
      rank [⟨"a", [2]⟩, ⟨"b", [1]⟩] [1] [true] =
        .ok [⟨"a", score ⟨"a", [2]⟩⟩, ⟨"b", score ⟨"b", [1]⟩⟩]) ∧
    selectNode (.ok ()) (.ok [busy, idle]) Except.ok = .ok "n1" := by
  obtain ⟨_, ranked, selected⟩ := @rank_respects_dominance
    ⟨[⟨"a", [2]⟩, ⟨"b", [1]⟩], [1], [true]⟩ String (.ok ()) (.ok [busy, idle]) Except.ok
    ⟨by simp, by simp, rfl, by simp⟩
  obtain ⟨score, results, _, dominance⟩ := ranked (by simp)
  refine ⟨⟨score, dominance _ (by simp) _ (by simp) (by simp [Problem.Dominates, AsGood]),
    results _ (.refl _)⟩, ?_⟩
  obtain ⟨name, selects⟩ := selectNode_busy_idle
  obtain ⟨_, same, picked, here, _, answer, undominated⟩ := selected name selects
  cases same
  rw [selects, ← Except.ok.inj answer]
  rcases List.mem_cons.mp here with rfl | last
  · have exceeded := undominated idle (by simp) (by simp [idle, ClusterResource.considered])
    norm_num [busy, idle, ClusterResource.availCPU, ClusterResource.availMem] at exceeded
  · rw [List.mem_singleton.mp last]
    rfl

end

end Nstance.Proxmox
