import Mathlib.Data.List.Count
import NeutralRouting.Policy.Text

/-!
# Layout of routing policies

A policy that is laid out at a deeper level has the same lines in the same order, each of them
moved to the right.  So the level of a line tells which conditionals it belongs to: what stands
under a conditional is indented deeper than its own lines, and its `else` is found by its level.
-/

namespace NeutralRouting

section Indentation

theorem indented_add (outer inner : Nat) (line : String) :
    indented (outer + inner) line = indented outer (indented inner line) := by
  rw [indented, indented, indented, Nat.mul_add, ← List.replicate_append_replicate,
    String.ofList_append, String.append_assoc]

theorem indented_zero (line : String) : indented 0 line = line :=
  String.empty_append

theorem indented_injective (depth : Nat) : Function.Injective (indented depth) :=
  fun _ _ => (String.append_right_inj _).mp

/-- A line that is moved to the right starts with a space. -/
theorem head?_indented_succ (depth : Nat) (line : String) :
    (indented (depth + 1) line).toList.head? = some ' ' := by
  rw [indented, String.toList_append, String.toList_ofList, Nat.mul_succ, List.replicate_succ]
  rfl

/-- A line at the left margin that starts with another letter is no `else`. -/
theorem indented_zero_ne_else (mark rest : String) {letter : Char}
    (starts : mark.toList.head? = some letter) (other : letter ≠ 'e') :
    indented 0 (mark ++ rest) ≠ "else" := by
  intro same
  have first : (mark ++ rest).toList.head? = some letter := by
    rw [String.toList_append, List.head?_append, starts, Option.some_or]
  rw [indented_zero] at same
  rw [same] at first
  exact other (Option.some.inj first).symm

end Indentation

namespace Statement

/-- The lines of several statements are those of each of them, one after the other. -/
theorem linesOf_eq_flatMap (depth : Nat) (steps : List Statement) :
    linesOf depth steps = steps.flatMap (·.lines depth) := by
  induction steps with
  | nil => rfl
  | cons step steps ih => rw [linesOf, List.flatMap_cons, ih]

/-- A conditional writes its comment and its guard, what it does if the guard holds one level
deeper, and then its alternative, unless that is empty. -/
theorem lines_branch (depth : Nat) (comment : Option String) (guard : Condition)
    (whenTrue whenFalse : List Statement) :
    (branch comment guard whenTrue whenFalse).lines depth =
      (comment.toList.map fun comment => indented depth s!"# {comment}") ++
        [indented depth s!"if {guard}"] ++ whenTrue.flatMap (·.lines (depth + 1)) ++
        (if whenFalse = [] then []
          else indented depth "else" :: whenFalse.flatMap (·.lines (depth + 1))) := by
  rw [lines, linesOf_eq_flatMap, linesOf_eq_flatMap, Option.toList_map]
  cases whenFalse <;> rfl

mutual

/-- A statement that is laid out deeper has its lines moved to the right. -/
theorem lines_add (outer inner : Nat) (step : Statement) :
    step.lines (outer + inner) = (step.lines inner).map (indented outer) := by
  match step with
  | .branch comment guard whenTrue whenFalse =>
      have true_lines := linesOf_add outer (inner + 1) whenTrue
      have false_lines := linesOf_add outer (inner + 1) whenFalse
      rw [← Nat.add_assoc] at true_lines false_lines
      rw [lines, lines, true_lines, false_lines]
      simp only [indented_add, List.map_append, apply_ite (List.map _), List.map_cons,
        List.map_nil, Option.toList_map, List.map_map, Function.comp_def]
  | .call _ | .setOrigin _ | .setNextHop _ | .setLocalPreference _ | .setMetric _ | .setTag _
  | .setWeight _ | .setCommunities _ _ | .directive _ =>
      exact congrArg (fun line => [line]) (indented_add outer inner _)
termination_by structural step

/-- Statements that are laid out deeper have their lines moved to the right. -/
theorem linesOf_add (outer inner : Nat) (steps : List Statement) :
    linesOf (outer + inner) steps = (linesOf inner steps).map (indented outer) := by
  match steps with
  | [] => rfl
  | step :: rest =>
      rw [linesOf, linesOf, lines_add outer inner step, linesOf_add outer inner rest,
        List.map_append]
termination_by structural steps

end

/-- The lines at any level are those at the left margin, moved to the right. -/
theorem lines_eq_map (depth : Nat) (step : Statement) :
    step.lines depth = (step.lines 0).map (indented depth) :=
  lines_add depth 0 step

/-- What stands deeper than the left margin starts with a space. -/
theorem head?_of_mem_flatMap_lines {steps : List Statement} {depth : Nat} {line : String}
    (member : line ∈ steps.flatMap (·.lines (depth + 1))) : line.toList.head? = some ' ' := by
  obtain ⟨step, -, member⟩ := List.mem_flatMap.mp member
  rw [lines_eq_map] at member
  obtain ⟨line, -, rfl⟩ := List.mem_map.mp member
  exact head?_indented_succ depth line

/-- A conditional has one `else` at its own level if it does something when its guard fails, and
none otherwise. -/
theorem count_else_lines_branch (depth : Nat) (comment : Option String) (guard : Condition)
    (whenTrue whenFalse : List Statement) :
    ((branch comment guard whenTrue whenFalse).lines depth).count (indented depth "else") =
      if whenFalse = [] then 0 else 1 := by
  have comment_count : (comment.toList.map fun comment => indented 0 s!"# {comment}").count
      "else" = 0 := by
    refine List.count_eq_zero.mpr fun member => ?_
    obtain ⟨comment, -, same⟩ := List.mem_map.mp member
    exact indented_zero_ne_else "# " comment rfl (by decide) same
  have guard_count : [indented 0 s!"if {guard}"].count "else" = 0 := by
    refine List.count_eq_zero.mpr fun member => ?_
    exact indented_zero_ne_else "if " guard.text rfl (by decide) (List.mem_singleton.mp member).symm
  have deeper_count : ∀ steps : List Statement, (steps.flatMap (·.lines 1)).count "else" = 0 := by
    intro steps
    refine List.count_eq_zero.mpr fun member => ?_
    have space := head?_of_mem_flatMap_lines member
    cases space
  rw [lines_eq_map, List.count_map_of_injective _ _ (indented_injective depth), lines_branch,
    List.count_append, List.count_append, List.count_append, comment_count, guard_count,
    deeper_count]
  split
  · rfl
  · rw [List.count_cons, deeper_count]
    rfl

end Statement

namespace RoutingPolicy

/-- The lines of a policy at any level are those at the left margin, moved to the right. -/
theorem lines_eq_map (policy : RoutingPolicy) (depth : Nat) :
    policy.lines depth = (policy.lines 0).map (indented depth) := by
  rw [lines, lines, List.map_cons, indented_zero, Statement.linesOf_add depth 1]

/-- A policy laid out at a level has the lines it has at the left margin, behind two spaces per
level, and every `else` stands at the level of its own conditional. -/
theorem lines_compose (policy : RoutingPolicy) (depth : Nat) :
    policy.lines depth =
      (policy.lines 0).map (String.ofList (List.replicate (2 * depth) ' ') ++ ·) ∧
    policy.lines depth =
      indented depth s!"policy {policy.name}" :: policy.statements.flatMap (·.lines (depth + 1)) ∧
    ∀ (comment : Option String) (guard : Condition) (whenTrue whenFalse : List Statement),
      (Statement.branch comment guard whenTrue whenFalse).lines depth =
        (comment.toList.map fun comment => indented depth s!"# {comment}") ++
          [indented depth s!"if {guard}"] ++ whenTrue.flatMap (·.lines (depth + 1)) ++
          (if whenFalse = [] then []
            else indented depth "else" :: whenFalse.flatMap (·.lines (depth + 1))) ∧
      ((Statement.branch comment guard whenTrue whenFalse).lines depth).count
        (indented depth "else") = if whenFalse = [] then 0 else 1 := by
  refine ⟨policy.lines_eq_map depth, ?_, fun comment guard whenTrue whenFalse => ⟨?_, ?_⟩⟩
  · rw [lines, Statement.linesOf_eq_flatMap]
  · exact Statement.lines_branch depth comment guard whenTrue whenFalse
  · exact Statement.count_else_lines_branch depth comment guard whenTrue whenFalse

example :
    (RoutingPolicy.mk "import"
      [.branch (some "main") (.call "internal")
        [.branch none (.tagIs 7) [.directive .exitReject] [.directive .exitAccept]] [],
        .directive .returnFalse]).lines 1 =
      ["  policy import", "    # main", "    if call internal", "      if tag 7",
        "        exit-reject", "      else", "        exit-accept", "    return-false"] := by
  decide +kernel

end RoutingPolicy
end NeutralRouting
