import EvidenceSearch.Filter.Clause
import EvidenceSearch.Proofs.Sql.Scanning
import EvidenceSearch.Proofs.Steps
import EvidenceSearch.Sql.Condition

/-!
# Reading terms and brackets

A term of a clause is read as its condition wherever a term may start. Terms that are joined by AND
or OR, in brackets or as a whole clause, are read as the conjunction or the disjunction of their
conditions. Nothing but the number of levels keeps a written condition from being read.
-/

namespace EvidenceSearch.Sql

/-! ## Levels -/

/-- A way to join two conditions that adds one level to the deeper of them. -/
def AddsLevel (combine : Condition → Condition → Condition) : Prop :=
  ∀ left right, (combine left right).depth = max left.depth right.depth + 1

/-- Every condition that is joined adds a level. -/
theorem depth_add_length_le_foldl
    {combine : Condition → Condition → Condition} (addsLevel : AddsLevel combine)
    (first : Condition) (others : List Condition) :
    first.depth + others.length ≤ (others.foldl combine first).depth := by
  induction others generalizing first with
  | nil =>
      exact Nat.le_refl _
  | cons second others inductionHypothesis =>
      have step := addsLevel first second
      have later := inductionHypothesis (combine first second)
      rw [List.foldl_cons, List.length_cons]
      omega

theorem depth_le_foldl
    {combine : Condition → Condition → Condition} (addsLevel : AddsLevel combine)
    (first : Condition) (others : List Condition) :
    first.depth ≤ (others.foldl combine first).depth :=
  (Nat.le_add_right _ _).trans (depth_add_length_le_foldl addsLevel first others)

theorem depth_foldl_le
    {combine : Condition → Condition → Condition} (addsLevel : AddsLevel combine) {bound : Nat}
    {others : List Condition} (shallow : ∀ other ∈ others, other.depth ≤ bound)
    (first : Condition) :
    (others.foldl combine first).depth ≤ max first.depth bound + others.length := by
  induction others generalizing first with
  | nil =>
      exact le_max_left first.depth bound
  | cons second others inductionHypothesis =>
      have step := addsLevel first second
      have shallowSecond := shallow second List.mem_cons_self
      have later :=
        inductionHypothesis (fun other member => shallow other (List.mem_cons_of_mem second member))
          (combine first second)
      rw [List.foldl_cons, List.length_cons]
      omega

namespace Reading

variable {frame : Frame} {outer : List Frame} {subject : Operand}

/-! ## Single tokens -/

theorem foldlM_step_cons
    {reading : Reading} {token : Token} (after : Reading) (tokens : List Token)
    (stepped : step reading token = .ok after) :
    (token :: tokens).foldlM step reading = tokens.foldlM step after := by
  rw [List.foldlM_cons, stepped]
  rfl

theorem foldlM_step_append
    {reading after : Reading} {tokens : List Token} (others : List Token)
    (readFirst : tokens.foldlM step reading = .ok after) :
    (tokens ++ others).foldlM step reading = others.foldlM step after := by
  rw [List.foldlM_append, readFirst]
  rfl

theorem step_complete_or
    {condition : Option Condition} (read : conditionOf frame = .ok condition) :
    step ⟨.complete, frame, outer⟩ (.word "OR") =
      .ok ⟨.start, ⟨frame.bracket, condition, none⟩, outer⟩ := by
  rw [step, read]
  rfl

/-- What a closing bracket makes of the condition in the bracket. -/
def enclosed (bracket : Bracket) (condition : Condition) : Condition :=
  match bracket with
  | .group => condition
  | .query subject column table => .within subject column table condition

theorem step_complete_closing
    {condition : Condition} (parent : Frame)
    (read : conditionOf frame = .ok (some condition)) :
    step ⟨.complete, frame, parent :: outer⟩ .closing =
      finish parent outer (enclosed frame.bracket condition) := by
  rw [step, read]
  cases frame.bracket <;> rfl

/-! ## Tokens of a term

`simp` takes in a term token by token. -/

section Tokens

variable (tokens : List Token) {column table : String}

@[simp]
theorem foldlM_start_word (isName : name (.word column) = .ok column) :
    (.word column :: tokens).foldlM step ⟨.start, frame, outer⟩ =
      tokens.foldlM step ⟨.operand (.column column), frame, outer⟩ := by
  have isOperand : operand (.word column) = .ok (.column column) := by
    change (name (.word column)).map Operand.column = .ok (.column column)
    rw [isName]
    rfl
  refine foldlM_step_cons _ _ ?_
  rw [step, isOperand]
  · rfl
  · nofun

@[simp]
theorem foldlM_start_opening :
    (.opening :: tokens).foldlM step ⟨.start, frame, outer⟩ =
      tokens.foldlM step ⟨.start, ⟨.group, none, none⟩, frame :: outer⟩ :=
  foldlM_step_cons _ _ rfl

theorem foldlM_operand
    {token : Token} {after : Phase} (follows : afterOperand subject token = .ok after) :
    (token :: tokens).foldlM step ⟨.operand subject, frame, outer⟩ =
      tokens.foldlM step ⟨after, frame, outer⟩ := by
  refine foldlM_step_cons _ _ ?_
  rw [step, follows]
  rfl

@[simp]
theorem foldlM_operand_like :
    (.word "LIKE" :: tokens).foldlM step ⟨.operand subject, frame, outer⟩ =
      tokens.foldlM step ⟨.liked subject, frame, outer⟩ :=
  foldlM_operand tokens rfl

@[simp]
theorem foldlM_operand_in :
    (.word "IN" :: tokens).foldlM step ⟨.operand subject, frame, outer⟩ =
      tokens.foldlM step ⟨.membership subject, frame, outer⟩ :=
  foldlM_operand tokens rfl

@[simp]
theorem foldlM_liked (pattern : List Char) :
    (.text pattern :: tokens).foldlM step ⟨.liked subject, frame, outer⟩ =
      tokens.foldlM step ⟨.patterned subject pattern, frame, outer⟩ :=
  foldlM_step_cons _ _ rfl

@[simp]
theorem foldlM_patterned (pattern : List Char) :
    (.word "ESCAPE" :: tokens).foldlM step ⟨.patterned subject pattern, frame, outer⟩ =
      tokens.foldlM step ⟨.escaping subject pattern, frame, outer⟩ :=
  foldlM_step_cons _ _ rfl

@[simp]
theorem foldlM_membership :
    (.opening :: tokens).foldlM step ⟨.membership subject, frame, outer⟩ =
      tokens.foldlM step ⟨.listStart subject, frame, outer⟩ :=
  foldlM_step_cons _ _ rfl

@[simp]
theorem foldlM_listStart_text (content : List Char) :
    (.text content :: tokens).foldlM step ⟨.listStart subject, frame, outer⟩ =
      tokens.foldlM step ⟨.listed subject [.text content], frame, outer⟩ :=
  foldlM_step_cons _ _ rfl

@[simp]
theorem foldlM_listed_comma (members : List Operand) :
    (.comma :: tokens).foldlM step ⟨.listed subject members, frame, outer⟩ =
      tokens.foldlM step ⟨.listNext subject members, frame, outer⟩ :=
  foldlM_step_cons _ _ rfl

@[simp]
theorem foldlM_listNext (members : List Operand) (content : List Char) :
    (.text content :: tokens).foldlM step ⟨.listNext subject members, frame, outer⟩ =
      tokens.foldlM step ⟨.listed subject (.text content :: members), frame, outer⟩ :=
  foldlM_step_cons _ _ rfl

@[simp]
theorem foldlM_listStart_select :
    (.word "SELECT" :: tokens).foldlM step ⟨.listStart subject, frame, outer⟩ =
      tokens.foldlM step ⟨.selecting subject, frame, outer⟩ :=
  foldlM_step_cons _ _ rfl

@[simp]
theorem foldlM_selecting (isName : name (.word column) = .ok column) :
    (.word column :: tokens).foldlM step ⟨.selecting subject, frame, outer⟩ =
      tokens.foldlM step ⟨.selected subject column, frame, outer⟩ := by
  refine foldlM_step_cons _ _ ?_
  rw [step, isName]
  rfl

@[simp]
theorem foldlM_selected :
    (.word "FROM" :: tokens).foldlM step ⟨.selected subject column, frame, outer⟩ =
      tokens.foldlM step ⟨.choosing subject column, frame, outer⟩ :=
  foldlM_step_cons _ _ rfl

@[simp]
theorem foldlM_choosing (isName : name (.word table) = .ok table) :
    (.word table :: tokens).foldlM step ⟨.choosing subject column, frame, outer⟩ =
      tokens.foldlM step ⟨.chosen subject column table, frame, outer⟩ := by
  refine foldlM_step_cons _ _ ?_
  rw [step, isName]
  rfl

@[simp]
theorem foldlM_chosen :
    (.word "WHERE" :: tokens).foldlM step ⟨.chosen subject column table, frame, outer⟩ =
      tokens.foldlM step
        ⟨.start, ⟨.query subject column table, none, none⟩, frame :: outer⟩ :=
  foldlM_step_cons _ _ rfl

@[simp]
theorem foldlM_complete_and :
    (.word "AND" :: tokens).foldlM step ⟨.complete, frame, outer⟩ =
      tokens.foldlM step ⟨.start, frame, outer⟩ :=
  foldlM_step_cons _ _ rfl

end Tokens

theorem foldlM_step_last
    {reading : Reading} {token : Token} {result : Except ClauseError Reading}
    (stepped : step reading token = result) :
    [token].foldlM step reading = result := by
  rw [List.foldlM_cons, stepped]
  cases result <;> rfl

@[simp]
theorem foldlM_escaping (pattern : List Char) (escape : Char) :
    [.text [escape]].foldlM step ⟨.escaping subject pattern, frame, outer⟩ =
      finish frame outer (.like subject pattern escape) :=
  foldlM_step_last rfl

@[simp]
theorem foldlM_listed_closing (members : List Operand) :
    [.closing].foldlM step ⟨.listed subject members, frame, outer⟩ =
      finish frame outer (.among subject members.reverse) :=
  foldlM_step_last rfl

/-! ## Terms -/

/-- Tokens that are read as a condition wherever a term may start. -/
def IsTerm (tokens : List Token) (condition : Condition) : Prop :=
  condition.depth ≤ depthLimit →
    ∀ frame outer,
      tokens.foldlM step ⟨.start, frame, outer⟩ = finish frame outer condition

/-- Tokens that are read as a condition between brackets, or as a whole clause. -/
def Fills (tokens : List Token) (condition : Condition) : Prop :=
  condition.depth ≤ depthLimit →
    ∀ bracket outer,
      ∃ frame,
        tokens.foldlM step ⟨.start, ⟨bracket, none, none⟩, outer⟩ =
            .ok ⟨.complete, frame, outer⟩ ∧
          frame.bracket = bracket ∧ conditionOf frame = .ok (some condition)

theorem isTerm_compare
    {column : String} {relationToken token : Token} {relation : Relation} {value : Operand}
    (isName : name (.word column) = .ok column)
    (isRelation :
      afterOperand (.column column) relationToken = .ok (.compared (.column column) relation))
    (isOperand : operand token = .ok value) :
    IsTerm [.word column, relationToken, token] (.compare (.column column) relation value) := by
  intro _ frame outer
  rw [foldlM_start_word _ isName, foldlM_operand _ isRelation]
  refine foldlM_step_last ?_
  rw [step, isOperand]
  rfl

theorem isTerm_like
    {column : String} (isName : name (.word column) = .ok column)
    (pattern : List Char) (escape : Char) :
    IsTerm [.word column, .word "LIKE", .text pattern, .word "ESCAPE", .text [escape]]
      (.like (.column column) pattern escape) := by
  intro _ frame outer
  simp [-List.foldlM_cons, isName]

/-! ## Lists of literals -/

theorem joinTokens_cons
    (separator : Token) (first : List Token) (others : List (List Token)) :
    joinTokens separator (first :: others) =
      first ++ others.flatMap fun tokens => separator :: tokens := by
  induction others generalizing first with
  | nil =>
      simp [joinTokens]
  | cons second others inductionHypothesis =>
      rw [joinTokens, inductionHypothesis]
      · simp
      · nofun

theorem foldlM_step_members
    (members : List Operand) (texts : List (List Char)) :
    (texts.flatMap fun content => [Token.comma, .text content]).foldlM step
        ⟨.listed subject members, frame, outer⟩ =
      .ok ⟨.listed subject ((texts.map Operand.text).reverse ++ members), frame, outer⟩ := by
  induction texts generalizing members with
  | nil =>
      rfl
  | cons content texts inductionHypothesis =>
      simp [-List.foldlM_cons, inductionHypothesis]

theorem isTerm_membership
    {column : String} (isName : name (.word column) = .ok column)
    {texts : List (List Char)} (filled : texts ≠ []) :
    IsTerm (membershipTokens column (texts.map Token.text))
      (.among (.column column) (texts.map Operand.text)) := by
  intro _ frame outer
  cases texts with
  | nil =>
      exact absurd rfl filled
  | cons content texts =>
      have commas :
          (texts.map Token.text).map (fun token => [token]) =
            texts.map fun content => [Token.text content] := by
        simp
      rw [membershipTokens, List.map_cons, List.map_cons, joinTokens_cons, bracketTokens, commas,
        List.flatMap_map]
      simp [-List.foldlM_cons, isName, foldlM_step_members]

/-! ## Brackets -/

theorem isTerm_bracketTokens
    {tokens : List Token} {condition : Condition} (fills : Fills tokens condition) :
    IsTerm (bracketTokens tokens) condition := by
  intro shallow frame outer
  obtain ⟨inner, read, bracket, holds⟩ := fills shallow .group (frame :: outer)
  rw [bracketTokens, foldlM_start_opening, foldlM_step_append _ read,
    foldlM_step_last (step_complete_closing frame holds), bracket]
  rfl

/-- A column that is looked for among those that a query finds. -/
def queryTokens (subject column table : String) (tokens : List Token) : List Token :=
  .word subject :: .word "IN" ::
    bracketTokens
      (.word "SELECT" :: .word column :: .word "FROM" :: .word table :: .word "WHERE" :: tokens)

theorem isTerm_queryTokens
    {subject column table : String} {tokens : List Token} {condition : Condition}
    (isSubject : name (.word subject) = .ok subject)
    (isColumn : name (.word column) = .ok column)
    (isTable : name (.word table) = .ok table)
    (fills : Fills tokens condition) :
    IsTerm (queryTokens subject column table tokens)
      (.within (.column subject) column table condition) := by
  intro shallow frame outer
  have shallowInner : condition.depth ≤ depthLimit := by
    rw [Condition.depth] at shallow
    omega
  obtain ⟨inner, read, bracket, holds⟩ :=
    fills shallowInner (.query (.column subject) column table) (frame :: outer)
  simp [-List.foldlM_cons, queryTokens, bracketTokens, isSubject, isColumn, isTable, read,
    foldlM_step_last (step_complete_closing frame holds), bracket, enclosed]

/-! ## Terms that are joined -/

theorem addsLevel_both : AddsLevel .both :=
  fun _ _ => rfl

theorem addsLevel_either : AddsLevel .either :=
  fun _ _ => rfl

theorem finish_first
    {condition : Condition} (shallow : condition.depth ≤ depthLimit)
    (bracket : Bracket) (alternatives : Option Condition) :
    finish ⟨bracket, alternatives, none⟩ outer condition =
      .ok ⟨.complete, ⟨bracket, alternatives, some condition⟩, outer⟩ := by
  have checked : checkDepth condition = .ok condition :=
    if_pos shallow
  simp only [finish, join, checked]
  rfl

theorem finish_next
    {before condition : Condition} (shallow : (Condition.both before condition).depth ≤ depthLimit)
    (bracket : Bracket) (alternatives : Option Condition) :
    finish ⟨bracket, alternatives, some before⟩ outer condition =
      .ok ⟨.complete, ⟨bracket, alternatives, some (.both before condition)⟩, outer⟩ := by
  have checked : checkDepth (.both before condition) = .ok (.both before condition) :=
    if_pos shallow
  simp only [finish, join, checked]
  rfl

theorem conditionOf_first
    {condition : Condition} (shallow : condition.depth ≤ depthLimit) (bracket : Bracket) :
    conditionOf ⟨bracket, none, some condition⟩ = .ok (some condition) := by
  have checked : checkDepth condition = .ok condition :=
    if_pos shallow
  simp only [conditionOf, join, checked]
  rfl

theorem conditionOf_next
    {before condition : Condition}
    (shallow : (Condition.either before condition).depth ≤ depthLimit) (bracket : Bracket) :
    conditionOf ⟨bracket, some before, some condition⟩ = .ok (some (.either before condition)) := by
  have checked : checkDepth (.either before condition) = .ok (.either before condition) :=
    if_pos shallow
  simp only [conditionOf, join, checked]
  rfl

/-- Further terms after AND join the condition under way. -/
theorem foldlM_step_and
    (bracket : Bracket) (alternatives : Option Condition)
    {terms : List (List Token × Condition)} (areTerms : ∀ term ∈ terms, IsTerm term.1 term.2)
    (before : Condition)
    (shallow : ((terms.map Prod.snd).foldl .both before).depth ≤ depthLimit) :
    (terms.flatMap fun term => .word "AND" :: term.1).foldlM step
        ⟨.complete, ⟨bracket, alternatives, some before⟩, outer⟩ =
      .ok ⟨.complete, ⟨bracket, alternatives, some ((terms.map Prod.snd).foldl .both before)⟩,
        outer⟩ := by
  induction terms generalizing before with
  | nil =>
      rfl
  | cons term terms inductionHypothesis =>
      rw [List.map_cons, List.foldl_cons] at shallow ⊢
      have shallowNext : (Condition.both before term.2).depth ≤ depthLimit :=
        Nat.le_trans (depth_le_foldl addsLevel_both _ _) shallow
      have shallowTerm : term.2.depth ≤ depthLimit := by
        have level := addsLevel_both before term.2
        omega
      have termRead :
          term.1.foldlM step ⟨.start, ⟨bracket, alternatives, some before⟩, outer⟩ =
            .ok ⟨.complete, ⟨bracket, alternatives, some (.both before term.2)⟩, outer⟩ := by
        rw [areTerms term List.mem_cons_self shallowTerm, finish_next shallowNext]
      rw [List.flatMap_cons, List.cons_append, foldlM_complete_and,
        foldlM_step_append _ termRead]
      exact
        inductionHypothesis (fun other member => areTerms other (List.mem_cons_of_mem term member))
          _ shallow

theorem fills_conjunction
    (first : List Token × Condition) (others : List (List Token × Condition))
    (areTerms : ∀ term ∈ first :: others, IsTerm term.1 term.2) :
    Fills (joinTokens (.word "AND") ((first :: others).map Prod.fst))
      ((others.map Prod.snd).foldl .both first.2) := by
  intro shallow bracket outer
  have shallowFirst : first.2.depth ≤ depthLimit :=
    Nat.le_trans (depth_le_foldl addsLevel_both _ _) shallow
  have firstRead :
      first.1.foldlM step ⟨.start, ⟨bracket, none, none⟩, outer⟩ =
        .ok ⟨.complete, ⟨bracket, none, some first.2⟩, outer⟩ := by
    rw [areTerms first List.mem_cons_self shallowFirst, finish_first shallowFirst]
  refine ⟨_, ?_, rfl, conditionOf_first shallow bracket⟩
  rw [List.map_cons, joinTokens_cons, foldlM_step_append _ firstRead, List.flatMap_map]
  exact
    foldlM_step_and bracket none
      (fun other member => areTerms other (List.mem_cons_of_mem first member)) first.2 shallow

/-- Further terms after OR join the alternatives. -/
theorem foldlM_step_or
    {terms : List (List Token × Condition)} (areTerms : ∀ term ∈ terms, IsTerm term.1 term.2)
    (frame : Frame) (before : Condition) (holds : conditionOf frame = .ok (some before))
    (shallow : ((terms.map Prod.snd).foldl .either before).depth ≤ depthLimit) :
    ∃ after,
      (terms.flatMap fun term => .word "OR" :: term.1).foldlM step ⟨.complete, frame, outer⟩ =
          .ok ⟨.complete, after, outer⟩ ∧
        after.bracket = frame.bracket ∧
        conditionOf after = .ok (some ((terms.map Prod.snd).foldl .either before)) := by
  induction terms generalizing frame before with
  | nil =>
      exact ⟨frame, rfl, rfl, holds⟩
  | cons term terms inductionHypothesis =>
      rw [List.map_cons, List.foldl_cons] at shallow ⊢
      have shallowNext : (Condition.either before term.2).depth ≤ depthLimit :=
        Nat.le_trans (depth_le_foldl addsLevel_either _ _) shallow
      have shallowTerm : term.2.depth ≤ depthLimit := by
        have level := addsLevel_either before term.2
        omega
      have termRead :
          term.1.foldlM step ⟨.start, ⟨frame.bracket, some before, none⟩, outer⟩ =
            .ok ⟨.complete, ⟨frame.bracket, some before, some term.2⟩, outer⟩ := by
        rw [areTerms term List.mem_cons_self shallowTerm, finish_first shallowTerm]
      obtain ⟨after, read, bracket, holdsAfter⟩ :=
        inductionHypothesis (fun other member => areTerms other (List.mem_cons_of_mem term member))
          ⟨frame.bracket, some before, some term.2⟩ _
          (conditionOf_next shallowNext frame.bracket) shallow
      refine ⟨after, ?_, bracket, holdsAfter⟩
      rw [List.flatMap_cons, List.cons_append, foldlM_step_cons _ _ (step_complete_or holds),
        foldlM_step_append _ termRead, read]

theorem fills_disjunction
    (first : List Token × Condition) (others : List (List Token × Condition))
    (areTerms : ∀ term ∈ first :: others, IsTerm term.1 term.2) :
    Fills (joinTokens (.word "OR") ((first :: others).map Prod.fst))
      ((others.map Prod.snd).foldl .either first.2) := by
  intro shallow bracket outer
  have shallowFirst : first.2.depth ≤ depthLimit :=
    Nat.le_trans (depth_le_foldl addsLevel_either _ _) shallow
  have firstRead :
      first.1.foldlM step ⟨.start, ⟨bracket, none, none⟩, outer⟩ =
        .ok ⟨.complete, ⟨bracket, none, some first.2⟩, outer⟩ := by
    rw [areTerms first List.mem_cons_self shallowFirst, finish_first shallowFirst]
  obtain ⟨after, read, sameBracket, holds⟩ :=
    foldlM_step_or (fun other member => areTerms other (List.mem_cons_of_mem first member))
      ⟨bracket, none, some first.2⟩ first.2 (conditionOf_first shallowFirst bracket) shallow
  refine ⟨after, ?_, sameBracket, holds⟩
  rw [List.map_cons, joinTokens_cons, foldlM_step_append _ firstRead, List.flatMap_map]
  exact read

/-! ## Any number of alternatives -/

theorem checkDepth_eq_error {condition : Condition} (deep : ¬ condition.depth ≤ depthLimit) :
    checkDepth condition = .error .tooDeep :=
  if_neg deep

theorem step_complete_or_of_error
    {error : ClauseError} (fails : conditionOf frame = .error error) :
    step ⟨.complete, frame, outer⟩ (.word "OR") = .error error := by
  rw [step, fails]
  rfl

theorem condition_complete
    {before : Condition} (holds : conditionOf frame = (checkDepth before).map some) :
    Reading.condition ⟨.complete, frame, []⟩ = checkDepth before := by
  rw [Reading.condition, holds]
  cases checkDepth before <;> rfl

theorem conditionOf_after_or {before condition : Condition} (bracket : Bracket) :
    conditionOf ⟨bracket, some before, some condition⟩ =
      (checkDepth (.either before condition)).map some := by
  simp only [conditionOf, join]
  cases checkDepth (.either before condition) <;> rfl

/-- Alternatives are taken in until they have too many levels together; then the clause fails at the
next alternative or at its end. -/
theorem condition_foldlM_step_or
    {terms : List (List Token × Condition)} (areTerms : ∀ term ∈ terms, IsTerm term.1 term.2)
    (shallow : ∀ term ∈ terms, term.2.depth ≤ depthLimit)
    (frame : Frame) (before : Condition)
    (holds : conditionOf frame = (checkDepth before).map some) :
    ((terms.flatMap fun term => .word "OR" :: term.1).foldlM step ⟨.complete, frame, []⟩ >>=
        Reading.condition) =
      checkDepth ((terms.map Prod.snd).foldl .either before) := by
  induction terms generalizing frame before with
  | nil =>
      exact condition_complete holds
  | cons term terms inductionHypothesis =>
      rw [List.map_cons, List.foldl_cons, List.flatMap_cons, List.cons_append]
      by_cases shallowBefore : before.depth ≤ depthLimit
      · have read : conditionOf frame = .ok (some before) := by
          rw [holds, checkDepth, if_pos shallowBefore]
          rfl
        have termRead :
            term.1.foldlM step ⟨.start, ⟨frame.bracket, some before, none⟩, []⟩ =
              .ok ⟨.complete, ⟨frame.bracket, some before, some term.2⟩, []⟩ := by
          have shallowTerm := shallow term List.mem_cons_self
          rw [areTerms term List.mem_cons_self shallowTerm, finish_first shallowTerm]
        rw [foldlM_step_cons _ _ (step_complete_or read), foldlM_step_append _ termRead]
        exact
          inductionHypothesis
            (fun other member => areTerms other (List.mem_cons_of_mem term member))
            (fun other member => shallow other (List.mem_cons_of_mem term member)) _ _
            (conditionOf_after_or frame.bracket)
      · -- the next alternative is not taken in, and the whole has even more levels
        have fails : conditionOf frame = .error .tooDeep := by
          rw [holds, checkDepth_eq_error shallowBefore]
          rfl
        have deep :
            ¬ ((terms.map Prod.snd).foldl .either (Condition.either before term.2)).depth ≤
                depthLimit := by
          have level := addsLevel_either before term.2
          have later :=
            depth_le_foldl addsLevel_either (.either before term.2) (terms.map Prod.snd)
          omega
        rw [checkDepth_eq_error deep, List.foldlM_cons, step_complete_or_of_error fails]
        rfl

/-- Shallow terms that are joined by OR are read as their disjunction, unless it has too many
levels. -/
theorem ofTokens_disjunction
    (first : List Token × Condition) (others : List (List Token × Condition))
    (areTerms : ∀ term ∈ first :: others, IsTerm term.1 term.2)
    (shallow : ∀ term ∈ first :: others, term.2.depth ≤ depthLimit) :
    Condition.ofTokens (joinTokens (.word "OR") ((first :: others).map Prod.fst)) =
      checkDepth ((others.map Prod.snd).foldl .either first.2) := by
  have shallowFirst := shallow first List.mem_cons_self
  have firstRead :
      first.1.foldlM step initial =
        .ok ⟨.complete, ⟨.group, none, some first.2⟩, []⟩ := by
    rw [initial, areTerms first List.mem_cons_self shallowFirst, finish_first shallowFirst]
  have holds :
      conditionOf ⟨.group, none, some first.2⟩ = (checkDepth first.2).map some := by
    rw [conditionOf_first shallowFirst, checkDepth, if_pos shallowFirst]
    rfl
  rw [Condition.ofTokens, List.map_cons, joinTokens_cons, foldlM_step_append _ firstRead,
    List.flatMap_map]
  exact
    condition_foldlM_step_or
      (fun other member => areTerms other (List.mem_cons_of_mem first member))
      (fun other member => shallow other (List.mem_cons_of_mem first member)) _ first.2 holds

/-! ## Clauses -/

theorem ofTokens_of_fills
    {tokens : List Token} {condition : Condition} (fills : Fills tokens condition)
    (shallow : condition.depth ≤ depthLimit) :
    Condition.ofTokens tokens = .ok condition := by
  obtain ⟨frame, read, _, holds⟩ := fills shallow .group []
  rw [Condition.ofTokens, initial, read]
  change Reading.condition ⟨.complete, frame, []⟩ = .ok condition
  rw [Reading.condition, holds]
  rfl

/-- A written clause without null characters is read token by token, whatever its texts hold. -/
theorem ofClause_write
    {tokens : List Token} (wellFormed : ∀ token ∈ tokens, token.WellFormed)
    (plain : ∀ content, Token.text content ∈ tokens → '\x00' ∉ content) :
    Condition.ofClause (Token.write tokens) = Condition.ofTokens tokens := by
  have noNull : '\x00' ∉ Token.write tokens := by
    apply Token.not_mem_write (by decide)
    intro token member
    apply (wellFormed token member).null_not_mem
    rintro content rfl
    exact plain content member
  rw [Condition.ofClause, takeWhile_ne_null noNull, Token.scan_write wellFormed]

end Reading
end EvidenceSearch.Sql
