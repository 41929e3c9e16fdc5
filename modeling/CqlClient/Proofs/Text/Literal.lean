import CqlClient.Text.Literal

namespace CqlClient.Text

/-- Scan a literal behind its first apostrophe: the characters that it stands for, and what is left
behind it. -/
def scanInside : List Char → Option (List Char × List Char)
  | [] => none
  | c :: rest =>
      if c = apostrophe then
        match rest with
        | [] => some ([], [])
        | d :: more =>
            if d = apostrophe then
              (scanInside more).map fun (value, left) => (apostrophe :: value, left)
            else some ([], d :: more)
      else (scanInside rest).map fun (value, left) => (c :: value, left)

/-- Scan a literal: its value, and what is left behind it. -/
def scanLiteral? : List Char → Option (String × List Char)
  | [] => none
  | c :: rest =>
      if c = apostrophe then
        (scanInside rest).map fun (value, left) => (String.ofList value, left)
      else none

variable {c : Char} {text value rest left : List Char}

theorem scanInside_cons (h : c ≠ apostrophe) :
    scanInside (c :: rest) = (scanInside rest).map fun (value, left) => (c :: value, left) := by
  rw [scanInside.eq_def]
  exact if_neg h

theorem scanInside_apostrophe_apostrophe :
    scanInside (apostrophe :: apostrophe :: rest) =
      (scanInside rest).map fun (value, left) => (apostrophe :: value, left) := by
  rw [scanInside, if_pos rfl, if_pos rfl]

theorem scanInside_apostrophe (h : rest.head? ≠ some apostrophe) :
    scanInside (apostrophe :: rest) = some ([], rest) := by
  cases rest with
  | nil => rfl
  | cons d more =>
      have hd : d ≠ apostrophe := fun heq => h (congrArg some heq)
      rw [scanInside, if_pos rfl, if_neg hd]

/-- Runs of apostrophes are no matter: each apostrophe of the text is scanned with its double, so
the one that closes the literal stands alone. -/
theorem scanInside_doubleApostrophes (text : List Char) (h : rest.head? ≠ some apostrophe) :
    scanInside (doubleApostrophes text ++ apostrophe :: rest) = some (text, rest) := by
  induction text with
  | nil => exact scanInside_apostrophe h
  | cons c text ih =>
      rw [doubleApostrophes]
      split
      · next heq =>
          rw [List.cons_append, List.cons_append, scanInside_apostrophe_apostrophe, ih, heq]
          rfl
      · next hne =>
          rw [List.cons_append, scanInside_cons hne, ih]
          rfl

theorem eq_of_scanInside (h : scanInside text = some (value, left)) :
    text = doubleApostrophes value ++ apostrophe :: left ∧ left.head? ≠ some apostrophe := by
  fun_induction scanInside text generalizing value left with
  | case1 => exact nomatch h
  | case2 =>
      obtain ⟨rfl, rfl⟩ := Prod.mk.inj (Option.some.inj h)
      exact ⟨rfl, nofun⟩
  | case3 more ih =>
      obtain ⟨⟨inner, behind⟩, hinner, hpair⟩ := Option.map_eq_some_iff.mp h
      obtain ⟨rfl, rfl⟩ := Prod.mk.inj hpair
      obtain ⟨rfl, hleft⟩ := ih hinner
      rw [doubleApostrophes, if_pos rfl]
      exact ⟨rfl, hleft⟩
  | case4 d more hd =>
      obtain ⟨rfl, rfl⟩ := Prod.mk.inj (Option.some.inj h)
      exact ⟨rfl, fun hhead => hd (Option.some.inj hhead)⟩
  | case5 c rest hc ih =>
      obtain ⟨⟨inner, behind⟩, hinner, hpair⟩ := Option.map_eq_some_iff.mp h
      obtain ⟨rfl, rfl⟩ := Prod.mk.inj hpair
      obtain ⟨rfl, hleft⟩ := ih hinner
      rw [doubleApostrophes, if_neg hc]
      exact ⟨rfl, hleft⟩

theorem toList_literal_append (name : String) (rest : List Char) :
    (literal name).toList ++ rest =
      apostrophe :: (doubleApostrophes name.toList ++ apostrophe :: rest) := by
  rw [literal, String.toList_ofList, List.cons_append, List.append_assoc, List.singleton_append]

/-- A text is scanned as a name if it begins with the literal of this name and goes on with no
apostrophe, and only then. -/
theorem scanLiteral?_eq_some_iff {name : String} :
    scanLiteral? text = some (name, left) ↔
      text = (literal name).toList ++ left ∧ left.head? ≠ some apostrophe := by
  rw [toList_literal_append]
  constructor
  · intro h
    cases text with
    | nil => exact nomatch h
    | cons c text =>
        rw [scanLiteral?] at h
        split at h
        · next hc =>
            obtain ⟨⟨value, behind⟩, hvalue, hpair⟩ := Option.map_eq_some_iff.mp h
            obtain ⟨rfl, rfl⟩ := Prod.mk.inj hpair
            obtain ⟨rfl, hleft⟩ := eq_of_scanInside hvalue
            rw [hc, String.toList_ofList]
            exact ⟨rfl, hleft⟩
        · exact nomatch h
  · rintro ⟨rfl, hleft⟩
    rw [scanLiteral?, if_pos rfl, scanInside_doubleApostrophes _ hleft, Option.map_some]
    exact congrArg (fun value => some (value, left)) String.ofList_toList

theorem scanLiteral?_append (name : String) (h : rest.head? ≠ some apostrophe) :
    scanLiteral? ((literal name).toList ++ rest) = some (name, rest) :=
  scanLiteral?_eq_some_iff.mpr ⟨rfl, h⟩

/-- Apostrophes in a row, at both ends and inside. -/
example : scanLiteral? "''''' OR ''='''".toList = some ("'' OR '='", []) := by decide +kernel

theorem length_of_scanLiteral? {name : String} (h : scanLiteral? text = some (name, left)) :
    left.length < text.length := by
  rw [(scanLiteral?_eq_some_iff.mp h).1, toList_literal_append, List.length_cons,
    List.length_append, List.length_cons]
  omega

/-- A piece of a statement. -/
inductive Piece
  | code (c : Char)
  | literal (value : String)
  deriving DecidableEq

/-- Cut a statement into its literals and the characters around them. There are no pieces if a
literal is not closed. -/
def pieces? : List Char → Option (List Piece)
  | [] => some []
  | c :: rest =>
      if c = apostrophe then
        match _hscan : scanLiteral? (c :: rest) with
        | none => none
        | some (value, left) => (pieces? left).map (.literal value :: ·)
      else (pieces? rest).map (.code c :: ·)
termination_by text => text.length
decreasing_by
  · exact length_of_scanLiteral? _hscan
  · exact Nat.lt_succ_self _

theorem pieces?_literal_append (name : String) (h : rest.head? ≠ some apostrophe) :
    pieces? ((literal name).toList ++ rest) = (pieces? rest).map (.literal name :: ·) := by
  have hscan := scanLiteral?_append name h
  rw [toList_literal_append] at hscan ⊢
  rw [pieces?, if_pos rfl]
  split
  · next hnone => exact nomatch hnone.symm.trans hscan
  · next value left hsome =>
      obtain ⟨rfl, rfl⟩ := Prod.mk.inj (Option.some.inj (hsome.symm.trans hscan))
      rfl

theorem pieces?_code_append (code : List Char) (h : apostrophe ∉ code) :
    pieces? (code ++ rest) = (pieces? rest).map (code.map .code ++ ·) := by
  induction code with
  | nil => exact Option.map_id'.symm
  | cons c code ih =>
      have hc : c ≠ apostrophe := (List.ne_of_not_mem_cons h).symm
      rw [List.cons_append, pieces?, if_neg hc, ih (List.not_mem_of_not_mem_cons h),
        Option.map_map]
      rfl

theorem pieces?_of_not_mem {code : List Char} (h : apostrophe ∉ code) :
    pieces? code = some (code.map .code) := by
  have hcode : pieces? (code ++ []) = (pieces? []).map (code.map .code ++ ·) :=
    pieces?_code_append code h
  rwa [List.append_nil, pieces?, Option.map_some, List.append_nil] at hcode

theorem pieces?_append_literal (code : List Char) (h : apostrophe ∉ code) (name : String) :
    pieces? (code ++ (literal name).toList) = some (code.map .code ++ [.literal name]) := by
  have hliteral : pieces? ((literal name).toList ++ []) = (pieces? []).map (.literal name :: ·) :=
    pieces?_literal_append name nofun
  rw [List.append_nil, pieces?, Option.map_some] at hliteral
  rw [pieces?_code_append code h, hliteral, Option.map_some]

end CqlClient.Text
