/-
# TableQuery.Proofs.Statement.Bound — binding reaches every marker and nothing else.

Binding rebuilds a tree with a count of the markers that it has met, and the walk over a tree lists its
nodes; the two go through the same fields in the same order.  So the nodes of the bound tree are those
of the tree, one for one: each marker has become the literal of its value, at the position that the
count of such markers before it gives, and every other node is of its class and has its fields
(`Node.bind_outlines`).  What a node is apart from the nodes below it is its `Outline`.

## §A — outlines.
## §B — bound sequences of nodes.
## §C — binding node by node.
## §D — trees without markers.
## §E — whole trees.
-/
import TableQuery.Statement.Nodes
import TableQuery.Statement.Parameters
import Mathlib.Data.List.Basic

namespace TableQuery

/-! ## §A — outlines -/

/-- **What a node is apart from the nodes below it** — its class, the fields that hold no nodes, and
how many nodes each of the others holds. -/
inductive Outline where
  | literal (value : Value)
  | column (name : String)
  | marker (marker : Marker)
  | binary (op : BinaryOp)
  | unary (op : UnaryOp)
  | member (values : Nat) (ofQuery negated : Bool)
  | isNull (negated : Bool)
  | like (negated : Bool)
  | call (name : String) (args : Nat)
  | subquery
  | star
  | resultColumn (aliasName : Option String) (label : String)
  | orderTerm (desc : Bool)
  | select (table : String) (columns : Nat) (hasCondition : Bool) (terms : Nat)
      (hasLimit hasOffset : Bool)
  | insert (table : String) (columns : List String) (rows : List Nat)
  | update (table : String) (assigned : List String) (hasCondition : Bool)
  | delete (table : String) (hasCondition : Bool)
  | other (kind : String)

/-- The outline of an expression. -/
def Expr.outline : Expr → Outline
  | .literal v => .literal v
  | .column name => .column name
  | .marker m => .marker m
  | .binary op _ _ => .binary op
  | .unary op _ => .unary op
  | .member _ vs q negated => .member vs.length q.isSome negated
  | .isNull _ negated => .isNull negated
  | .like _ _ negated => .like negated
  | .call name args => .call name args.length
  | .subquery _ => .subquery
  | .star => .star
  | .misplaced kind => .other kind

/-- The outline of a statement. -/
def Statement.outline : Statement → Outline
  | .select s =>
    .select s.table s.columns.length s.condition.isSome s.orderBy.length s.limit.isSome
      s.offset.isSome
  | .insert s => .insert s.table s.columns (s.rows.map List.length)
  | .update s => .update s.table (s.assignments.map (·.1)) s.condition.isSome
  | .delete s => .delete s.table s.condition.isSome

/-- The outline of a node. -/
def Node.outline : Node → Outline
  | .expr e => e.outline
  | .resultColumn c => .resultColumn c.aliasName c.label
  | .orderTerm t => .orderTerm t.desc
  | .statement s => s.outline
  | .bare v => .other v.kindName

namespace Outline

/-- Whether it is the outline of a marker. -/
def isMarker : Outline → Bool
  | marker _ => true
  | _ => false

/-- Whether it is the outline of a marker that is numbered by its place. -/
def isNumbered : Outline → Bool
  | marker m => Parameters.needsPosition m
  | _ => false

/-- **What binding makes of a node** — a marker is looked up, at a position if it has none of its own,
and any other node stays what it is. -/
def bound (params : Parameters) (position : Nat) : Outline → Outline
  | marker m => literal (params.lookup m (some (position : Int)))
  | o => o

end Outline

theorem Node.isMarker_outline (n : Node) : n.outline.isMarker = n.isMarker := by
  rcases n with e | c | t | s | v
  · cases e <;> rfl
  · rfl
  · rfl
  · cases s <;> rfl
  · rfl

/-- The outlines of nodes. -/
def outlines (nodes : List Node) : List Outline := nodes.map Node.outline

@[simp]
theorem outlines_cons (n : Node) (ns : List Node) : outlines (n :: ns) = n.outline :: outlines ns :=
  rfl

@[simp]
theorem outlines_append (ns ms : List Node) : outlines (ns ++ ms) = outlines ns ++ outlines ms :=
  List.map_append

/-! ## §B — bound sequences of nodes -/

namespace Outline
variable (params : Parameters)

/-- What binding makes of nodes in order after `k` markers that had to be numbered. -/
def boundFrom : Nat → List Outline → List Outline
  | _, [] => []
  | k, o :: os => o.bound params k :: boundFrom (k + if o.isNumbered then 1 else 0) os

theorem boundFrom_append (k : Nat) (os os' : List Outline) :
    boundFrom params k (os ++ os') =
      boundFrom params k os ++ boundFrom params (k + os.countP isNumbered) os' := by
  induction os generalizing k with
  | nil => rfl
  | cons o os ih =>
      rw [List.cons_append, boundFrom, boundFrom, ih, List.cons_append, List.countP_cons,
        Nat.add_right_comm, Nat.add_assoc]

/-- Counted from any node, the position of a marker is the number of numbered markers before it. -/
theorem boundFrom_eq_mapIdx (k : Nat) (os : List Outline) :
    boundFrom params k os =
      os.mapIdx fun i o => o.bound params (k + (os.take i).countP isNumbered) := by
  induction os generalizing k with
  | nil => rfl
  | cons o os ih =>
      have hposition (i : Nat) : k + ((o :: os).take (i + 1)).countP isNumbered =
          k + (if o.isNumbered then 1 else 0) + (os.take i).countP isNumbered := by
        rw [List.take_succ_cons, List.countP_cons]
        omega
      rw [boundFrom, ih, List.mapIdx_cons]
      simp only [hposition]
      rfl

theorem isMarker_bound (position : Nat) (o : Outline) : (o.bound params position).isMarker = false := by
  cases o <;> rfl

variable {o : Outline}

/-- What is no marker stays what it is and is not counted. -/
theorem bound_of_isMarker (h : o.isMarker = false) (position : Nat) :
    o.bound params position = o ∧ o.isNumbered = false := by
  cases o with
  | marker m => cases h
  | _ => exact ⟨rfl, rfl⟩

end Outline

/-- **One sequence of nodes is the other one bound**, the markers counted from `k` on and up to `m`. -/
structure BoundAs (params : Parameters) (k : Nat) (before after : List Node) (m : Nat) : Prop where
  nodes : outlines after = Outline.boundFrom params k (outlines before)
  count : m = k + (outlines before).countP Outline.isNumbered

namespace BoundAs
variable {params : Parameters} {k m l : Nat} {ns ns' more more' : List Node} {n n' : Node}

theorem nil : BoundAs params k [] [] k := ⟨rfl, rfl⟩

theorem append (h : BoundAs params k ns ns' m) (h' : BoundAs params m more more' l) :
    BoundAs params k (ns ++ more) (ns' ++ more') l where
  nodes := by
    rw [outlines_append, outlines_append, Outline.boundFrom_append, ← h.nodes, ← h.count, ← h'.nodes]
  count := by
    rw [h'.count, h.count, outlines_append, List.countP_append, Nat.add_assoc]

/-- A node that is no marker, before the nodes below it. -/
theorem cons (h : BoundAs params k ns ns' m) (hn : n.outline.isMarker = false)
    (hsame : n'.outline = n.outline) : BoundAs params k (n :: ns) (n' :: ns') m := by
  obtain ⟨hstays, hnumbered⟩ := Outline.bound_of_isMarker params hn k
  constructor
  · rw [outlines_cons, outlines_cons, Outline.boundFrom, hstays, hnumbered, hsame, h.nodes]
    rfl
  · rw [outlines_cons, List.countP_cons, hnumbered]
    exact h.count

/-- A node that is no marker and has no nodes below it. -/
theorem leaf (n : Node) (hn : n.outline.isMarker = false) : BoundAs params k [n] [n] k :=
  nil.cons hn rfl

/-- A marker becomes its literal. -/
theorem marker (params : Parameters) (m : Marker) (k : Nat) :
    BoundAs params k [.expr (.marker m)] ((params.literalFor m k).1.nodes true)
      (params.literalFor m k).2 := by
  unfold Parameters.literalFor
  split
  · rename_i hm
    exact ⟨rfl, by simp [outlines, Node.outline, Expr.outline, Outline.isNumbered, hm]⟩
  · rename_i hm
    -- What the marker carries decides, and the position has no part in it.
    have hlookup : params.lookup m none = params.lookup m (some (k : Int)) := by
      rcases m with ⟨_ | name, _ | index⟩
      · exact absurd rfl hm
      all_goals rfl
    refine ⟨?_, by simp [outlines, Node.outline, Expr.outline, Outline.isNumbered, hm]⟩
    rw [hlookup]
    rfl

end BoundAs

/-! ## §C — binding node by node -/

section
variable (params : Parameters)

theorem Expr.length_bindListFrom (es : List Expr) (n : Nat) :
    (Expr.bindListFrom params es n).1.length = es.length := by
  induction es generalizing n with
  | nil => rfl
  | cons e es ih => exact congrArg (· + 1) (ih _)

theorem ResultColumn.length_bindListFrom (cs : List ResultColumn) (n : Nat) :
    (ResultColumn.bindListFrom params cs n).1.length = cs.length := by
  induction cs generalizing n with
  | nil => rfl
  | cons c cs ih => exact congrArg (· + 1) (ih _)

theorem OrderTerm.length_bindListFrom (ts : List OrderTerm) (n : Nat) :
    (OrderTerm.bindListFrom params ts n).1.length = ts.length := by
  induction ts generalizing n with
  | nil => rfl
  | cons t ts ih => exact congrArg (· + 1) (ih _)

theorem Expr.isSome_bindOptionFrom (e : Option Expr) (n : Nat) :
    (Expr.bindOptionFrom params e n).1.isSome = e.isSome := by
  cases e <;> rfl

theorem Select.isSome_bindOptionFrom (s : Option Select) (n : Nat) :
    (Select.bindOptionFrom params s n).1.isSome = s.isSome := by
  cases s <;> rfl

/-- A SELECT has its outline before and after. -/
theorem Select.outline_bindFrom (s : Select) (n : Nat) :
    (Statement.select (s.bindFrom params n).1).outline = (Statement.select s).outline := by
  obtain ⟨t, cs, w, os, l, o⟩ := s
  change Outline.select _ _ _ _ _ _ = Outline.select _ _ _ _ _ _
  congr 1
  · exact ResultColumn.length_bindListFrom params cs n
  · exact Expr.isSome_bindOptionFrom params w _
  · exact OrderTerm.length_bindListFrom params os _
  · exact Expr.isSome_bindOptionFrom params l _
  · exact Expr.isSome_bindOptionFrom params o _

mutual

theorem Expr.boundAs : ∀ (e : Expr) (n : Nat),
    BoundAs params n (e.nodes true) ((e.bindFrom params n).1.nodes true) (e.bindFrom params n).2
  | .marker m, n => .marker params m n
  | .binary op l r, n => ((Expr.boundAs l n).append (Expr.boundAs r _)).cons rfl rfl
  | .unary op e, n => (Expr.boundAs e n).cons rfl rfl
  | .member l vs q negated, n => by
      refine ((Expr.boundAs l n).append ((Expr.listBoundAs vs _).append
        (Select.optionBoundAs q _))).cons rfl ?_
      change Outline.member _ _ _ = Outline.member _ _ _
      rw [Expr.length_bindListFrom, Select.isSome_bindOptionFrom]
  | .isNull e negated, n => (Expr.boundAs e n).cons rfl rfl
  | .like l p negated, n => ((Expr.boundAs l n).append (Expr.boundAs p _)).cons rfl rfl
  | .call name args, n => by
      refine (Expr.listBoundAs args n).cons rfl ?_
      change Outline.call _ _ = Outline.call _ _
      rw [Expr.length_bindListFrom]
  | .subquery s, n => (Select.boundAs s n).cons rfl rfl
  | .misplaced _, _ => .nil
  | .literal _, _ | .column _, _ | .star, _ => .leaf _ rfl

theorem Expr.listBoundAs : ∀ (es : List Expr) (n : Nat),
    BoundAs params n (Expr.listNodes true es) (Expr.listNodes true (Expr.bindListFrom params es n).1)
      (Expr.bindListFrom params es n).2
  | [], _ => .nil
  | e :: es, n => (Expr.boundAs e n).append (Expr.listBoundAs es _)

theorem Expr.optionBoundAs : ∀ (e : Option Expr) (n : Nat),
    BoundAs params n (Expr.optionNodes true e)
      (Expr.optionNodes true (Expr.bindOptionFrom params e n).1) (Expr.bindOptionFrom params e n).2
  | none, _ => .nil
  | some e, n => Expr.boundAs e n

theorem Select.optionBoundAs : ∀ (s : Option Select) (n : Nat),
    BoundAs params n (Select.optionNodes true s)
      (Select.optionNodes true (Select.bindOptionFrom params s n).1)
      (Select.bindOptionFrom params s n).2
  | none, _ => .nil
  | some s, n => (Select.boundAs s n).cons rfl rfl

theorem ResultColumn.boundAs : ∀ (c : ResultColumn) (n : Nat),
    BoundAs params n (c.nodes true) ((c.bindFrom params n).1.nodes true) (c.bindFrom params n).2
  | .mk e _ _, n => (Expr.boundAs e n).cons rfl rfl

theorem ResultColumn.listBoundAs : ∀ (cs : List ResultColumn) (n : Nat),
    BoundAs params n (ResultColumn.listNodes true cs)
      (ResultColumn.listNodes true (ResultColumn.bindListFrom params cs n).1)
      (ResultColumn.bindListFrom params cs n).2
  | [], _ => .nil
  | c :: cs, n => (ResultColumn.boundAs c n).append (ResultColumn.listBoundAs cs _)

theorem OrderTerm.boundAs : ∀ (t : OrderTerm) (n : Nat),
    BoundAs params n (t.nodes true) ((t.bindFrom params n).1.nodes true) (t.bindFrom params n).2
  | .mk e _, n => (Expr.boundAs e n).cons rfl rfl

theorem OrderTerm.listBoundAs : ∀ (ts : List OrderTerm) (n : Nat),
    BoundAs params n (OrderTerm.listNodes true ts)
      (OrderTerm.listNodes true (OrderTerm.bindListFrom params ts n).1)
      (OrderTerm.bindListFrom params ts n).2
  | [], _ => .nil
  | t :: ts, n => (OrderTerm.boundAs t n).append (OrderTerm.listBoundAs ts _)

theorem Select.boundAs : ∀ (s : Select) (n : Nat),
    BoundAs params n (s.nodes true) ((s.bindFrom params n).1.nodes true) (s.bindFrom params n).2
  | .mk t cs w os l o, n =>
    ((ResultColumn.listBoundAs cs n).append ((Expr.optionBoundAs w _).append
      ((OrderTerm.listBoundAs os _).append ((Expr.optionBoundAs l _).append
        (Expr.optionBoundAs o _))))).cons rfl (Select.outline_bindFrom params (.mk t cs w os l o) n)

end

theorem Insert.rowsBoundAs (rows : List (List Expr)) (n : Nat) :
    BoundAs params n (rows.flatMap (Expr.listNodes true))
      ((Insert.bindRowsFrom params rows n).1.flatMap (Expr.listNodes true))
      (Insert.bindRowsFrom params rows n).2 := by
  induction rows generalizing n with
  | nil => exact .nil
  | cons row rows ih => exact (Expr.listBoundAs params row n).append (ih _)

theorem Insert.lengths_bindRowsFrom (rows : List (List Expr)) (n : Nat) :
    (Insert.bindRowsFrom params rows n).1.map List.length = rows.map List.length := by
  induction rows generalizing n with
  | nil => rfl
  | cons row rows ih =>
      exact congrArg₂ List.cons (Expr.length_bindListFrom params row n) (ih _)

theorem Update.assignmentsBoundAs (assignments : List (String × Expr)) (n : Nat) :
    BoundAs params n (assignments.flatMap fun a => a.2.nodes true)
      ((Update.bindAssignmentsFrom params assignments n).1.flatMap fun a => a.2.nodes true)
      (Update.bindAssignmentsFrom params assignments n).2 := by
  induction assignments generalizing n with
  | nil => exact .nil
  | cons a rest ih => exact (Expr.boundAs params a.2 n).append (ih _)

theorem Update.names_bindAssignmentsFrom (assignments : List (String × Expr)) (n : Nat) :
    (Update.bindAssignmentsFrom params assignments n).1.map (·.1) = assignments.map (·.1) := by
  induction assignments generalizing n with
  | nil => rfl
  | cons a rest ih => exact congrArg (a.1 :: ·) (ih _)

/-- **Binding a tree is binding its nodes in order.** -/
theorem Node.boundAs (t : Node) :
    ∃ m, BoundAs params 0 (t.nodes true) ((t.bind params).nodes true) m := by
  rcases t with e | c | o | s | v
  · exact ⟨_, Expr.boundAs params e 0⟩
  · exact ⟨_, ResultColumn.boundAs params c 0⟩
  · exact ⟨_, OrderTerm.boundAs params o 0⟩
  · cases s with
    | select s => exact ⟨_, Select.boundAs params s 0⟩
    | insert s =>
        refine ⟨_, (Insert.rowsBoundAs params s.rows 0).cons rfl ?_⟩
        change Outline.insert _ _ _ = Outline.insert _ _ _
        rw [← Insert.lengths_bindRowsFrom params s.rows 0]
        rfl
    | update s =>
        refine ⟨_, ((Update.assignmentsBoundAs params s.assignments 0).append
          (Expr.optionBoundAs params s.condition _)).cons rfl ?_⟩
        change Outline.update _ _ _ = Outline.update _ _ _
        rw [← Update.names_bindAssignmentsFrom params s.assignments 0,
          ← Expr.isSome_bindOptionFrom params s.condition]
        rfl
    | delete s =>
        refine ⟨_, (Expr.optionBoundAs params s.condition 0).cons rfl ?_⟩
        change Outline.delete _ _ = Outline.delete _ _
        rw [← Expr.isSome_bindOptionFrom params s.condition 0]
        rfl
  · exact ⟨0, .nil⟩

/-! ## §D — trees without markers -/

/-- Nodes none of which is a marker. -/
def Unmarked (nodes : List Node) : Prop := ∀ n ∈ nodes, n.isMarker = false

theorem unmarked_cons {n : Node} {ns : List Node} (h : Unmarked (n :: ns)) : Unmarked ns :=
  fun m hm => h m (List.mem_cons_of_mem n hm)

theorem unmarked_append {ns ms : List Node} (h : Unmarked (ns ++ ms)) : Unmarked ns ∧ Unmarked ms :=
  List.forall_mem_append.mp h

mutual

theorem Expr.bindFrom_unmarked : ∀ (e : Expr) (n : Nat), Unmarked (e.nodes true) →
    e.bindFrom params n = (e, n)
  | .marker m, _, h => by cases h (.expr (.marker m)) List.mem_cons_self
  | .binary op l r, n, h => by
      obtain ⟨hl, hr⟩ := unmarked_append (unmarked_cons h)
      simp only [Expr.bindFrom, Expr.bindFrom_unmarked l n hl, Expr.bindFrom_unmarked r n hr]
  | .unary op e, n, h => by
      simp only [Expr.bindFrom, Expr.bindFrom_unmarked e n (unmarked_cons h)]
  | .member l vs q negated, n, h => by
      obtain ⟨hl, hrest⟩ := unmarked_append (unmarked_cons h)
      obtain ⟨hvs, hq⟩ := unmarked_append hrest
      simp only [Expr.bindFrom, Expr.bindFrom_unmarked l n hl, Expr.bindListFrom_unmarked vs n hvs,
        Select.bindOptionFrom_unmarked q n hq]
  | .isNull e negated, n, h => by
      simp only [Expr.bindFrom, Expr.bindFrom_unmarked e n (unmarked_cons h)]
  | .like l p negated, n, h => by
      obtain ⟨hl, hp⟩ := unmarked_append (unmarked_cons h)
      simp only [Expr.bindFrom, Expr.bindFrom_unmarked l n hl, Expr.bindFrom_unmarked p n hp]
  | .call name args, n, h => by
      simp only [Expr.bindFrom, Expr.bindListFrom_unmarked args n (unmarked_cons h)]
  | .subquery s, n, h => by
      simp only [Expr.bindFrom, Select.bindFrom_unmarked s n (unmarked_cons h)]
  | .literal _, _, _ | .column _, _, _ | .star, _, _ | .misplaced _, _, _ => rfl

theorem Expr.bindListFrom_unmarked : ∀ (es : List Expr) (n : Nat),
    Unmarked (Expr.listNodes true es) → Expr.bindListFrom params es n = (es, n)
  | [], _, _ => rfl
  | e :: es, n, h => by
      obtain ⟨he, hes⟩ := unmarked_append h
      simp only [Expr.bindListFrom, Expr.bindFrom_unmarked e n he,
        Expr.bindListFrom_unmarked es n hes]

theorem Expr.bindOptionFrom_unmarked : ∀ (e : Option Expr) (n : Nat),
    Unmarked (Expr.optionNodes true e) → Expr.bindOptionFrom params e n = (e, n)
  | none, _, _ => rfl
  | some e, n, h => by simp only [Expr.bindOptionFrom, Expr.bindFrom_unmarked e n h]

theorem Select.bindOptionFrom_unmarked : ∀ (s : Option Select) (n : Nat),
    Unmarked (Select.optionNodes true s) → Select.bindOptionFrom params s n = (s, n)
  | none, _, _ => rfl
  | some s, n, h => by
      simp only [Select.bindOptionFrom, Select.bindFrom_unmarked s n (unmarked_cons h)]

theorem ResultColumn.bindFrom_unmarked : ∀ (c : ResultColumn) (n : Nat),
    Unmarked (c.nodes true) → c.bindFrom params n = (c, n)
  | .mk e _ _, n, h => by
      simp only [ResultColumn.bindFrom, Expr.bindFrom_unmarked e n (unmarked_cons h)]

theorem ResultColumn.bindListFrom_unmarked : ∀ (cs : List ResultColumn) (n : Nat),
    Unmarked (ResultColumn.listNodes true cs) → ResultColumn.bindListFrom params cs n = (cs, n)
  | [], _, _ => rfl
  | c :: cs, n, h => by
      obtain ⟨hc, hcs⟩ := unmarked_append h
      simp only [ResultColumn.bindListFrom, ResultColumn.bindFrom_unmarked c n hc,
        ResultColumn.bindListFrom_unmarked cs n hcs]

theorem OrderTerm.bindFrom_unmarked : ∀ (t : OrderTerm) (n : Nat),
    Unmarked (t.nodes true) → t.bindFrom params n = (t, n)
  | .mk e _, n, h => by
      simp only [OrderTerm.bindFrom, Expr.bindFrom_unmarked e n (unmarked_cons h)]

theorem OrderTerm.bindListFrom_unmarked : ∀ (ts : List OrderTerm) (n : Nat),
    Unmarked (OrderTerm.listNodes true ts) → OrderTerm.bindListFrom params ts n = (ts, n)
  | [], _, _ => rfl
  | t :: ts, n, h => by
      obtain ⟨ht, hts⟩ := unmarked_append h
      simp only [OrderTerm.bindListFrom, OrderTerm.bindFrom_unmarked t n ht,
        OrderTerm.bindListFrom_unmarked ts n hts]

theorem Select.bindFrom_unmarked : ∀ (s : Select) (n : Nat), Unmarked (s.nodes true) →
    s.bindFrom params n = (s, n)
  | .mk t cs w os l o, n, h => by
      obtain ⟨hcs, h⟩ := unmarked_append (unmarked_cons h)
      obtain ⟨hw, h⟩ := unmarked_append h
      obtain ⟨hos, h⟩ := unmarked_append h
      obtain ⟨hl, ho⟩ := unmarked_append h
      simp only [Select.bindFrom, ResultColumn.bindListFrom_unmarked cs n hcs,
        Expr.bindOptionFrom_unmarked w n hw, OrderTerm.bindListFrom_unmarked os n hos,
        Expr.bindOptionFrom_unmarked l n hl, Expr.bindOptionFrom_unmarked o n ho]

end

theorem Insert.bindRowsFrom_unmarked (rows : List (List Expr)) (n : Nat)
    (h : Unmarked (rows.flatMap (Expr.listNodes true))) :
    Insert.bindRowsFrom params rows n = (rows, n) := by
  induction rows with
  | nil => rfl
  | cons row rows ih =>
      obtain ⟨hrow, hrows⟩ := unmarked_append h
      simp only [Insert.bindRowsFrom, Expr.bindListFrom_unmarked params row n hrow, ih hrows]

theorem Update.bindAssignmentsFrom_unmarked (assignments : List (String × Expr)) (n : Nat)
    (h : Unmarked (assignments.flatMap fun a => a.2.nodes true)) :
    Update.bindAssignmentsFrom params assignments n = (assignments, n) := by
  induction assignments with
  | nil => rfl
  | cons a rest ih =>
      obtain ⟨ha, hrest⟩ := unmarked_append h
      simp only [Update.bindAssignmentsFrom, Expr.bindFrom_unmarked params a.2 n ha, ih hrest]

/-- **A tree without markers is bound already.** -/
theorem Node.bind_unmarked {t : Node} (h : t.hasMarkers = false) : t.bind params = t := by
  have hnodes : Unmarked (t.nodes true) := by
    intro n hn
    simpa using List.any_eq_false.mp h n hn
  rcases t with e | c | o | s | v
  · exact congrArg (fun bound => Node.expr bound.1) (Expr.bindFrom_unmarked params e 0 hnodes)
  · exact congrArg (fun bound => Node.resultColumn bound.1)
      (ResultColumn.bindFrom_unmarked params c 0 hnodes)
  · exact congrArg (fun bound => Node.orderTerm bound.1)
      (OrderTerm.bindFrom_unmarked params o 0 hnodes)
  · cases s with
    | select s =>
        exact congrArg (fun bound => Node.statement (.select bound.1))
          (Select.bindFrom_unmarked params s 0 hnodes)
    | insert s =>
        have hrows := Insert.bindRowsFrom_unmarked params s.rows 0 (unmarked_cons hnodes)
        simp only [Node.bind, Statement.bind, Insert.bind, hrows]
    | update s =>
        obtain ⟨hassigned, hcondition⟩ := unmarked_append (unmarked_cons hnodes)
        have hassignments := Update.bindAssignmentsFrom_unmarked params s.assignments 0 hassigned
        simp only [Node.bind, Statement.bind, Update.bind, hassignments,
          Expr.bindOptionFrom_unmarked params s.condition 0 hcondition]
    | delete s =>
        simp only [Node.bind, Statement.bind, Delete.bind,
          Expr.bindOptionFrom_unmarked params s.condition 0 (unmarked_cons hnodes)]
  · rfl

/-! ## §E — whole trees -/

/-- **Binding reaches every marker and nothing else.**  No marker is left in the bound tree; its nodes,
in their order, are those of the tree, where every marker has become the literal of its value at the
position that is the number of markers to be numbered before it; and binding again, with any
parameters, changes nothing. -/
theorem Node.bind_outlines (t : Node) :
    (t.bind params).hasMarkers = false ∧
    outlines ((t.bind params).nodes true) = (outlines (t.nodes true)).mapIdx (fun i o =>
      o.bound params (((outlines (t.nodes true)).take i).countP Outline.isNumbered)) ∧
    ∀ params', (t.bind params).bind params' = t.bind params := by
  obtain ⟨m, hbound⟩ := Node.boundAs params t
  have hnodes := hbound.nodes
  rw [Outline.boundFrom_eq_mapIdx] at hnodes
  simp only [Nat.zero_add] at hnodes
  have hmarkers : (t.bind params).hasMarkers = false := by
    refine List.any_eq_false.mpr fun n hn => ?_
    have hoccurs : n.outline ∈ outlines ((t.bind params).nodes true) := List.mem_map_of_mem hn
    rw [hnodes] at hoccurs
    obtain ⟨i, hi, houtline⟩ := List.mem_mapIdx.mp hoccurs
    rw [← Node.isMarker_outline, ← houtline, Outline.isMarker_bound]
    exact Bool.false_ne_true
  exact ⟨hmarkers, hnodes, fun params' => Node.bind_unmarked params' hmarkers⟩

end
end TableQuery
