import QueryGen.Proofs.Statement.Hygiene

/-!
# What statements assign

The statements of a template assign variables of generated code alone: the container of bound
values, builders and counters. A loop declares variables for its body, which hides others of these
names and does not change them.

- `Statement.assignedAll`: the variables that statements assign, at any depth.
- `Clause.assigned_number`: they are reserved, by induction on the tree.
- `assigned_of_compile`: the same for compiled templates.
-/

namespace QueryGen

open Template (Options Scope)

mutual

/-- The variables that a statement declares and assigns, changes, or hands on to be changed. -/
def Statement.assigned : Statement → List String
  | .put _ _ => [Reserved.bindings]
  | .append _ => [Reserved.bindings]
  | .write builder _ => [builder]
  | .join _ target builder => [target, builder]
  | .stepCounter name => [name]
  | .branch _ body alternatives =>
    Statement.assignedAll body ++ Alternative.assignedAll alternatives
  | .loop _ _ _ body => Statement.assignedAll body
  | s => s.declares

/-- The variables that statements assign. -/
def Statement.assignedAll : List Statement → List String
  | [] => []
  | s :: rest => s.assigned ++ Statement.assignedAll rest

/-- The variables that alternatives assign. -/
def Alternative.assignedAll : List Alternative → List String
  | [] => []
  | .mk _ body :: rest => Statement.assignedAll body ++ Alternative.assignedAll rest

end

theorem Statement.assignedAll_append (a b : List Statement) :
    assignedAll (a ++ b) = assignedAll a ++ assignedAll b := by
  induction a with
  | nil => rfl
  | cons s rest ih => simp [assignedAll, ih]

theorem Statement.assignedAll_eq_flatMap (ss : List Statement) :
    assignedAll ss = ss.flatMap assigned := by
  induction ss with
  | nil => rfl
  | cons s rest ih => simp [assignedAll, ih]

/-- All names are names of generated code. -/
def AllReserved (names : List String) : Prop := ∀ name ∈ names, Reserved.isReserved name = true

theorem AllReserved.nil : AllReserved [] :=
  List.forall_mem_nil _

theorem AllReserved.append {a b : List String} (ha : AllReserved a) (hb : AllReserved b) :
    AllReserved (a ++ b) :=
  List.forall_mem_append.2 ⟨ha, hb⟩

theorem AllReserved.singleton {name : String} (h : Reserved.isReserved name = true) :
    AllReserved [name] :=
  List.forall_mem_singleton.2 h

theorem isReserved_nextJoin (n : Numbering) (kind : JoinKind) :
    Reserved.isReserved (n.nextJoin kind).1 = true := by
  cases kind with
  | filter => exact Reserved.isReserved_numbered (by simp) n.wheres
  | assign => exact Reserved.isReserved_numbered (by simp) n.sets

section Clauses

variable (opts : Options)

/-- SQL text is written to its builder, and its values to their container. -/
theorem assigned_sqlStatements {builder : String} (hb : Reserved.isReserved builder = true)
    (fragments : List Fragment) :
    AllReserved (Statement.assignedAll (sqlStatements opts builder fragments)) := by
  unfold sqlStatements
  split
  · exact AllReserved.nil
  · rw [Statement.assignedAll_append]
    refine AllReserved.append ?_ (AllReserved.singleton hb)
    rw [Statement.assignedAll_eq_flatMap]
    intro name hname
    obtain ⟨s, hs, hname⟩ := List.mem_flatMap.1 hname
    obtain ⟨b, -, rfl⟩ := List.mem_map.1 hs
    have hbindings : (b.statement opts.bindStyle).assigned = [Reserved.bindings] := by
      unfold Binding.statement
      cases opts.bindStyle <;> rfl
    rw [hbindings] at hname
    exact AllReserved.singleton Reserved.isReserved_bindings name hname

/-- A loop may count its rounds. -/
theorem assigned_loopStatements {n n' : Numbering} {range : ForRange} {index : LoopIndex}
    (hi : n.loopIndex range = (index, n')) (numbered : Bool) {body : List Statement}
    (hbody : AllReserved (Statement.assignedAll body)) :
    AllReserved (Statement.assignedAll (loopStatements numbered range index body)) := by
  have hname := AllReserved.singleton (Reserved.isReserved_loopIndex n.indices)
  have hplain : ∀ i v, AllReserved (Statement.assignedAll [.loop i v range.range body]) :=
    fun i v => by simpa [Statement.assignedAll, Statement.assigned] using hbody
  rcases Numbering.of_loopIndex hi with ⟨-, rfl, rfl⟩ | ⟨-, -, rfl, rfl⟩ | ⟨-, -, rfl, rfl⟩
  · cases numbered with
    | false => exact hplain _ _
    | true =>
      have hsteps : Statement.assignedAll (loopStatements true range
          (.counter (Reserved.loopIndex n.indices)) body) = [Reserved.loopIndex n.indices] ++
            (Statement.assignedAll body ++ [Reserved.loopIndex n.indices]) := by
        simp [loopStatements, Statement.assignedAll, Statement.assigned, Statement.declares,
          Statement.assignedAll_append]
      rw [hsteps]
      exact hname.append (hbody.append hname)
  · cases numbered <;> exact hplain _ _
  · cases numbered <;> exact hplain _ _

mutual

theorem Clause.assigned_number (n : Numbering) {builder : String}
    (hb : Reserved.isReserved builder = true) (c : Clause) :
    AllReserved (Statement.assignedAll ((c.number n builder).1.statements opts)) := by
  match c with
  | .sql _ fragments => exact assigned_sqlStatements opts hb _
  | .branch _ cond body otherwise =>
    have h := (Clause.assigned_numberAll n hb body).append
      (Branch.assigned_numberAll (Clause.numberAll n builder body).2 hb otherwise)
    simpa [Clause.number, Clause.statements, Statement.assignedAll, Statement.assigned] using h
  | .join kind _ _ body =>
    have hown := isReserved_nextJoin n kind
    have h := (AllReserved.singleton hown).append
      ((Clause.assigned_numberAll (n.nextJoin kind).2 hown body).append
        ((AllReserved.singleton hb).append (AllReserved.singleton hown)))
    simpa [Clause.number, Clause.statements, Statement.assignedAll, Statement.assigned,
      Statement.declares, Statement.assignedAll_append] using h
  | .loop _ _ range _ body =>
    exact assigned_loopStatements rfl _ (Clause.assigned_numberAll _ hb body)

/-- The statements of a tree assign names of generated code. -/
theorem Clause.assigned_numberAll (n : Numbering) {builder : String}
    (hb : Reserved.isReserved builder = true) (cs : List Clause) : AllReserved
      (Statement.assignedAll (Clause.statementsAll opts (Clause.numberAll n builder cs).1)) := by
  match cs with
  | [] => exact AllReserved.nil
  | c :: rest =>
    rw [Clause.numberAll, Clause.statementsAll, Statement.assignedAll_append]
    exact (Clause.assigned_number n hb c).append (Clause.assigned_numberAll _ hb rest)

theorem Branch.assigned_numberAll (n : Numbering) {builder : String}
    (hb : Reserved.isReserved builder = true) (bs : List Branch) : AllReserved
      (Alternative.assignedAll (Branch.alternatives opts (Branch.numberAll n builder bs).1)) := by
  match bs with
  | [] => exact AllReserved.nil
  | .mk cond body :: rest =>
    exact (Clause.assigned_numberAll n hb body).append (Branch.assigned_numberAll _ hb rest)

end

end Clauses

/-- The statements of a compiled template assign names of generated code alone. -/
theorem assigned_of_compile {template : String} {scope : Scope} {opts : Options} {c : Compiled}
    (h : compile template scope opts = .ok c) : AllReserved (Statement.assignedAll c.block) := by
  obtain ⟨-, sections, -, tree, hb, rfl⟩ := compile_eq_ok_iff.1 h
  have htree := Clause.assigned_numberAll opts {} Reserved.isReserved_sqlBuilder tree
  rw [numberAll_of_buildClauses hb] at htree
  have hbuilder := AllReserved.singleton Reserved.isReserved_sqlBuilder
  change AllReserved (Statement.assignedAll (methodStatements opts tree))
  rw [methodStatements, Statement.assignedAll_append]
  refine AllReserved.append ?_ (hbuilder.append htree)
  split
  · unfold declareBindings
    cases opts.bindStyle <;> exact AllReserved.singleton Reserved.isReserved_bindings
  · exact AllReserved.nil

end QueryGen
