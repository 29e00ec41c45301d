import Zenbedded.Foundation.CStruct

namespace Zenbedded.Foundation

/-! # C headers

What a header of macros and packed `typedef struct` declarations says to the
compiler that includes it: the text is split into tokens, and the tokens are
read one after the other.
-/

inductive Token where
  | word (text : Text)
  | mark (char : Char)
  | directive (line : Text)
deriving Repr, DecidableEq

def isWordChar (char : Char) : Bool := char.isAlphanum || char = '_'

inductive LexMode where
  | lineStart
  | text (word : Text)
  | directive (line : Text)
deriving Repr, DecidableEq

def wordToken (word : Text) : List Token := if word = [] then [] else [.word word]

/-- `#` starts a directive only at the start of a line. -/
def lex : LexMode → Text → List Token
  | .lineStart, [] => []
  | .text word, [] => wordToken word
  | .directive line, [] => [.directive line]
  | .lineStart, char :: rest =>
      if char = '#' then lex (.directive [char]) rest
      else if char = '\n' then lex .lineStart rest
      else if isWordChar char then lex (.text [char]) rest
      else if char = ' ' then lex (.text []) rest
      else .mark char :: lex (.text []) rest
  | .text word, char :: rest =>
      if char = '\n' then wordToken word ++ lex .lineStart rest
      else if isWordChar char then lex (.text (word ++ [char])) rest
      else if char = ' ' then wordToken word ++ lex (.text []) rest
      else wordToken word ++ .mark char :: lex (.text []) rest
  | .directive line, char :: rest =>
      if char = '\n' then .directive line :: lex .lineStart rest
      else lex (.directive (line ++ [char])) rest

def tokens (text : Text) : List Token := lex .lineStart text

theorem lex_word {word : Text} (chars : ∀ char ∈ word, isWordChar char = true) (seen rest : Text) :
    lex (.text seen) (word ++ rest) = lex (.text (seen ++ word)) rest := by
  induction word generalizing seen with
  | nil => rw [List.nil_append, List.append_nil]
  | cons char word ih =>
      have first : isWordChar char = true := chars char List.mem_cons_self
      have line : char ≠ '\n' := by
        rintro rfl
        contradiction
      rw [List.cons_append, lex, if_neg line, if_pos first,
        ih (fun other member => chars other (List.mem_cons_of_mem _ member)), List.append_assoc]
      rfl

theorem lex_directive {line : Text} (oneLine : '\n' ∉ line) (seen rest : Text) :
    lex (.directive seen) (line ++ '\n' :: rest) =
      .directive (seen ++ line) :: lex .lineStart rest := by
  induction line generalizing seen with
  | nil => rw [List.nil_append, lex, if_pos rfl, List.append_nil]
  | cons char line ih =>
      obtain ⟨first, others⟩ := not_or.mp (mt List.mem_cons.mpr oneLine)
      rw [List.cons_append, lex, if_neg (Ne.symm first), ih others, List.append_assoc]
      rfl

theorem lex_directiveLine {line : Text} (oneLine : '\n' ∉ line) (rest : Text) :
    lex .lineStart ('#' :: (line ++ '\n' :: rest)) =
      .directive ('#' :: line) :: lex .lineStart rest := by
  rw [lex, if_pos rfl, lex_directive oneLine]
  rfl

def macroStart (name : Text) : Text := "#define ".toList ++ name ++ [' ']

theorem lex_define {name body : Text} (nameLine : '\n' ∉ name) (bodyLine : '\n' ∉ body)
    (rest : Text) :
    lex .lineStart (macroStart name ++ (body ++ '\n' :: rest)) =
      .directive (macroStart name ++ body) :: lex .lineStart rest := by
  have oneLine : '\n' ∉ "define ".toList ++ name ++ [' '] ++ body := by
    simp [nameLine, bodyLine]
  have start : macroStart name = '#' :: ("define ".toList ++ name ++ [' ']) := by
    delta macroStart
    simp
  rw [start, List.cons_append, List.cons_append, ← List.append_assoc, lex_directiveLine oneLine]

/-- The body of the first definition of a macro. -/
def macroBody (name : Text) : List Token → Option Text
  | [] => none
  | .directive line :: rest =>
      if macroStart name <+: line then some (line.drop (macroStart name).length)
      else macroBody name rest
  | _ :: rest => macroBody name rest

theorem macroBody_define (name body : Text) (rest : List Token) :
    macroBody name (.directive (macroStart name ++ body) :: rest) = some body := by
  rw [macroBody, if_pos (List.prefix_append _ _), List.drop_left]

theorem macroBody_other {name line : Text} (other : ¬ macroStart name <+: line)
    (rest : List Token) :
    macroBody name (.directive line :: rest) = macroBody name rest := by
  rw [macroBody, if_neg other]

def isIdentifier (name : Text) : Bool :=
  name.all isWordChar && name.head?.any fun char => !char.isDigit

inductive ReadMode where
  | top
  | typedef
  | struct
  | body (members : List CMember)
  | typed (members : List CMember) (type : CScalar)
  | named (members : List CMember) (member : CMember)
  | closed (members : List CMember)
  | declared (members : List CMember) (name : Text)
deriving Repr, DecidableEq

structure Header where
  packs : List Nat
  mode : ReadMode
  structs : List (Text × CStruct)
deriving Repr, DecidableEq

namespace Header

def packPush (bytes : Nat) : Text := "#pragma pack(push, ".toList ++ Nat.toDigits 10 bytes ++ [')']

def pushedPack (line : Text) : Option Nat := [1, 2, 4, 8, 16].find? fun bytes => line = packPush bytes

def packsAfter (line : Text) (packs : List Nat) : List Nat :=
  if line = "#pragma pack(pop)".toList then packs.tail
  else (pushedPack line).toList ++ packs

/-- `none` where the compiler rejects the header: a token out of place, an
unknown type, a name that is no identifier or is already a member's. -/
def step (header : Header) (token : Token) : Option Header :=
  match header.mode, token with
  | _, .directive line => some { header with packs := packsAfter line header.packs }
  | .top, .word word =>
      if word = "typedef".toList then some { header with mode := .typedef } else none
  | .typedef, .word word =>
      if word = "struct".toList then some { header with mode := .struct } else none
  | .struct, .mark '\x7b' => some { header with mode := .body [] }
  | .body members, .mark '\x7d' => some { header with mode := .closed members }
  | .body members, .word word =>
      (CScalar.ofSpelling word).map fun type => { header with mode := .typed members type }
  | .typed members type, .word name =>
      if isIdentifier name = true ∧ name ∉ members.map CMember.name then
        some { header with mode := .named members { type, name } }
      else none
  | .named members member, .mark ';' => some { header with mode := .body (members ++ [member]) }
  | .closed members, .word name =>
      if isIdentifier name = true ∧ name ∉ header.structs.map Prod.fst then
        some { header with mode := .declared members name }
      else none
  | .declared members name, .mark ';' =>
      some { header with
        mode := .top
        structs := header.structs ++ [(name, { pack := header.packs.head?, members })] }
  | _, _ => none

theorem packsAfter_pop (packs : List Nat) :
    packsAfter "#pragma pack(pop)".toList packs = packs.tail := if_pos rfl

theorem packsAfter_push (packs : List Nat) :
    packsAfter "#pragma pack(push, 1)".toList packs = 1 :: packs := by
  have different : "#pragma pack(push, 1)".toList ≠ "#pragma pack(pop)".toList := by simp
  have one : "#pragma pack(push, 1)".toList = packPush 1 := by
    delta packPush
    simp
    rfl
  have pushed : pushedPack (packPush 1) = some 1 := List.find?_cons_of_pos (decide_eq_true rfl)
  delta packsAfter
  rw [if_neg different, one, pushed]
  rfl

/-- Only `#pragma pack` changes the packing. -/
theorem packsAfter_other {line : Text} (other : ¬ "#pragma pack(".toList <+: line)
    (packs : List Nat) : packsAfter line packs = packs := by
  have pop : line ≠ "#pragma pack(pop)".toList := by
    rintro rfl
    exact other ⟨"pop)".toList, by simp⟩
  have push : pushedPack line = none := by
    apply List.find?_eq_none.mpr
    intro bytes _ same
    rw [of_decide_eq_true same] at other
    apply other
    refine ⟨"push, ".toList ++ Nat.toDigits 10 bytes ++ [')'], ?_⟩
    delta packPush
    simp
  delta packsAfter
  rw [if_neg pop, push]
  rfl

@[simp] theorem step_directive (header : Header) (line : Text) :
    step header (.directive line) = some { header with packs := packsAfter line header.packs } := by
  obtain ⟨packs, mode, structs⟩ := header
  cases mode <;> rfl

theorem step_type (packs : List Nat) (members : List CMember) (structs : List (Text × CStruct))
    (type : CScalar) :
    step { packs, mode := .body members, structs } (.word type.spelling) =
      some { packs, mode := .typed members type, structs } :=
  congrArg (Option.map _) (CScalar.ofSpelling_spelling type)

theorem step_name {members : List CMember} {name : Text} (identifier : isIdentifier name = true)
    (new : name ∉ members.map CMember.name) (packs : List Nat) (structs : List (Text × CStruct))
    (type : CScalar) :
    step { packs, mode := .typed members type, structs } (.word name) =
      some { packs, mode := .named members { type, name }, structs } :=
  if_pos ⟨identifier, new⟩

/-- The end of a struct declaration. -/
theorem read_close {name : Text} {structs : List (Text × CStruct)}
    (identifier : isIdentifier name = true) (new : name ∉ structs.map Prod.fst) (pack : Nat)
    (packs : List Nat) (members : List CMember) :
    [Token.mark '\x7d', .word name, .mark ';'].foldlM step
        { packs := pack :: packs, mode := .body members, structs } =
      some { packs := pack :: packs, mode := .top,
             structs := structs ++ [(name, { pack := some pack, members })] } := by
  have named : step { packs := pack :: packs, mode := .closed members, structs } (.word name) =
      some { packs := pack :: packs, mode := .declared members name, structs } :=
    if_pos ⟨identifier, new⟩
  have closed : step { packs := pack :: packs, mode := .body members, structs } (.mark '\x7d') =
      some { packs := pack :: packs, mode := .closed members, structs } := rfl
  rw [List.foldlM_cons, closed, Option.bind_eq_bind, Option.bind_some, List.foldlM_cons, named]
  rfl

def empty : Header := { packs := [], mode := .top, structs := [] }

def read (text : Text) : Option Header := (tokens text).foldlM step empty

end Header

namespace CMember

def line (member : CMember) : Text :=
  "  ".toList ++ member.type.spelling ++ " ".toList ++ member.name ++ ";\n".toList

def tokens (member : CMember) : List Token :=
  [.word member.type.spelling, .word member.name, .mark ';']

theorem isWordChar_of_isIdentifier {name : Text} (identifier : isIdentifier name = true) :
    ∀ char ∈ name, isWordChar char = true := by
  rw [isIdentifier, Bool.and_eq_true, List.all_eq_true] at identifier
  exact identifier.1

theorem ne_nil_of_isIdentifier {name : Text} (identifier : isIdentifier name = true) :
    name ≠ [] := by
  rintro rfl
  contradiction

theorem lex_line {member : CMember} (identifier : isIdentifier member.name = true) (rest : Text) :
    lex .lineStart (member.line ++ rest) = member.tokens ++ lex .lineStart rest := by
  obtain ⟨type, name⟩ := member
  have start : lex .lineStart (line { type, name } ++ rest) =
      .word type.spelling :: lex (.text []) (name ++ (";\n".toList ++ rest)) := by
    delta line
    simp only [List.append_assoc]
    cases type <;> rfl
  rw [start, lex_word (isWordChar_of_isIdentifier identifier), List.nil_append]
  have finish : lex (.text name) (";\n".toList ++ rest) =
      wordToken name ++ .mark ';' :: lex .lineStart rest := rfl
  rw [finish, wordToken, if_neg (ne_nil_of_isIdentifier identifier)]
  rfl

theorem lex_lines {members : List CMember}
    (identifiers : ∀ member ∈ members, isIdentifier member.name = true) (rest : Text) :
    lex .lineStart (members.flatMap line ++ rest) =
      members.flatMap tokens ++ lex .lineStart rest := by
  induction members with
  | nil => rfl
  | cons member members ih =>
      rw [List.flatMap_cons, List.append_assoc, lex_line (identifiers member List.mem_cons_self),
        ih (fun other inside => identifiers other (List.mem_cons_of_mem _ inside)),
        List.flatMap_cons, List.append_assoc]

theorem read_member {member : CMember} {members : List CMember}
    (identifier : isIdentifier member.name = true)
    (new : member.name ∉ members.map CMember.name) (packs : List Nat)
    (structs : List (Text × CStruct)) :
    member.tokens.foldlM Header.step { packs, mode := .body members, structs } =
      some { packs, mode := .body (members ++ [member]), structs } := by
  rw [tokens, List.foldlM_cons, Header.step_type, Option.bind_eq_bind, Option.bind_some,
    List.foldlM_cons, Header.step_name identifier new]
  rfl

/-- A compiler reads the members back that the lines declare. -/
theorem read_members {members : List CMember}
    (identifiers : ∀ member ∈ members, isIdentifier member.name = true) (seen : List CMember)
    (distinct : ((seen ++ members).map CMember.name).Nodup) (packs : List Nat)
    (structs : List (Text × CStruct)) :
    (members.flatMap tokens).foldlM Header.step { packs, mode := .body seen, structs } =
      some { packs, mode := .body (seen ++ members), structs } := by
  induction members generalizing seen with
  | nil => rw [List.append_nil]; rfl
  | cons member members ih =>
      have new : member.name ∉ seen.map CMember.name := by
        rw [List.map_append, List.nodup_append] at distinct
        intro repeated
        exact distinct.2.2 _ repeated _ (List.mem_cons_self) rfl
      have regrouped : seen ++ member :: members = (seen ++ [member]) ++ members := by
        rw [List.append_assoc]; rfl
      rw [List.flatMap_cons, List.foldlM_append,
        read_member (identifiers member List.mem_cons_self) new, regrouped]
      apply ih
      · intro other inside
        exact identifiers other (List.mem_cons_of_mem _ inside)
      · rw [← regrouped]
        exact distinct

end CMember

end Zenbedded.Foundation
