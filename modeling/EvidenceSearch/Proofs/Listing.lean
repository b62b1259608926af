import Mathlib.Data.List.Basic

/-!
# Messages that list problems

Some messages have a header and then list problems. Every problem starts a line of its own, so
unless a problem breaks its line there are as many lines below the header as there are problems.
-/

namespace EvidenceSearch

/-- The line on which a problem is listed. -/
def listed (problem : String) : String :=
  "  - " ++ problem

theorem append_intercalate (lineEnd indent first : List Char) (rest : List (List Char)) :
    indent ++ (lineEnd ++ indent).intercalate (first :: rest) =
      lineEnd.intercalate ((first :: rest).map (indent ++ ·)) := by
  induction rest generalizing first with
  | nil =>
      simp only [List.map_cons, List.map_nil, List.intercalate_singleton]
  | cons second rest inductionHypothesis =>
      rw [List.intercalate_cons_cons, List.map_cons, List.map_cons, List.intercalate_cons_cons,
        ← List.map_cons, ← inductionHypothesis second]
      simp only [List.append_assoc]

variable {message header : String} {problems : List String}

/-- The problems stand below the header, and each of them starts a new line. -/
theorem toList_of_listing
    (lists : message = header ++ "\n  - " ++ "\n  - ".intercalate problems)
    (reported : problems ≠ []) :
    message.toList =
      ['\n'].intercalate (header.toList ::
        problems.map fun problem => (listed problem).toList) := by
  obtain ⟨first, rest, rfl⟩ := List.exists_cons_of_ne_nil reported
  have separator : "\n  - ".toList = ['\n'] ++ "  - ".toList := by
    decide
  have lines :
      (first :: rest).map (fun problem => (listed problem).toList) =
        ((first :: rest).map String.toList).map ("  - ".toList ++ ·) := by
    rw [List.map_map]
    exact List.map_congr_left fun problem _ => String.toList_append
  have indented := append_intercalate ['\n'] "  - ".toList first.toList (rest.map String.toList)
  rw [lists, String.toList_append, String.toList_append, String.toList_intercalate, separator,
    lines, ← List.append_assoc, List.append_assoc]
  exact (congrArg (header.toList ++ ['\n'] ++ ·) indented).trans List.intercalate_cons_cons.symm

/-- Unless the header or a problem breaks its line, every problem has one line. -/
theorem splitOn_of_listing
    (lists : message = header ++ "\n  - " ++ "\n  - ".intercalate problems)
    (reported : problems ≠ []) (plainHeader : '\n' ∉ header.toList)
    (plain : ∀ problem ∈ problems, '\n' ∉ problem.toList) :
    message.toList.splitOn '\n' =
      header.toList :: problems.map fun problem => (listed problem).toList := by
  rw [toList_of_listing lists reported]
  refine List.splitOn_intercalate '\n' (List.forall_mem_cons.mpr ⟨plainHeader, ?_⟩) nofun
  intro line isLine
  obtain ⟨problem, member, rfl⟩ := List.mem_map.mp isLine
  rw [listed, String.toList_append, List.mem_append, not_or]
  exact ⟨by decide, plain problem member⟩

end EvidenceSearch
