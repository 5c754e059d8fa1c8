import RespClient.Failure

set_option autoImplicit false

namespace RespClient.Address

section
variable (mark : Char) (front back : List Char)

theorem cut_at_mark (free : mark ∉ front) :
    (front ++ mark :: back).takeWhile (· ≠ mark) = front ∧
      (front ++ mark :: back).dropWhile (· ≠ mark) = mark :: back := by
  have before : ∀ c ∈ front, decide (c ≠ mark) = true := by
    intro c member
    have different : c ≠ mark := fun same => free (same ▸ member)
    simp [different]
  rw [List.takeWhile_append_of_pos before, List.dropWhile_append_of_pos before]
  simp

theorem uncut (free : mark ∉ front) :
    front.takeWhile (· ≠ mark) = front ∧ front.dropWhile (· ≠ mark) = [] := by
  have before : ∀ c ∈ front, decide (c ≠ mark) = true := by
    intro c member
    have different : c ≠ mark := fun same => free (same ▸ member)
    simp [different]
  have taken : (front ++ []).takeWhile (· ≠ mark) = front ++ [] :=
    List.takeWhile_append_of_pos before
  have dropped : (front ++ []).dropWhile (· ≠ mark) = [] := List.dropWhile_append_of_pos before
  rw [List.append_nil] at taken dropped
  exact ⟨taken, dropped⟩

end

section
variable (host behind : List Char)

theorem split_open (free : ']' ∉ host) : split ('[' :: host) = none := by
  obtain ⟨_, rest⟩ := uncut ']' host free
  simp only [split, rest]

theorem split_bracketed (free : ']' ∉ host) : split ('[' :: (host ++ [']'])) = some (host, []) := by
  obtain ⟨front, rest⟩ := cut_at_mark ']' host [] free
  simp only [split, front, rest]

theorem split_bracketed_port (free : ']' ∉ host) :
    split ('[' :: (host ++ ']' :: ':' :: behind)) = some (host, behind) := by
  obtain ⟨front, rest⟩ := cut_at_mark ']' host (':' :: behind) free
  simp only [split, front, rest]

theorem split_bracketed_other (mark : Char) (free : ']' ∉ host) (other : mark ≠ ':') :
    split ('[' :: (host ++ ']' :: mark :: behind)) = none := by
  obtain ⟨_, rest⟩ := cut_at_mark ']' host (mark :: behind) free
  simp only [split, rest]
  split
  · rename_i alone
    cases alone
  · rename_i colon
    cases colon
    exact absurd rfl other
  · rfl

theorem split_bare (chars : List Char) (unbracketed : chars.head? ≠ some '[') :
    split chars =
      match chars.dropWhile (· ≠ ':') with
      | [] => some (chars.takeWhile (· ≠ ':'), [])
      | _ :: port => if ':' ∈ port then none else some (chars.takeWhile (· ≠ ':'), port) := by
  unfold split
  split
  · exact absurd rfl unbracketed
  · rfl

end

theorem split_iff (chars host port : List Char) :
    split chars = some (host, port) ↔ Layout chars host port := by
  constructor
  · intro found
    by_cases bracket : chars.head? = some '['
    · obtain ⟨rest, rfl⟩ := List.head?_eq_some_iff.mp bracket
      by_cases ends : ']' ∈ rest
      · obtain ⟨inside, behind, rfl, free⟩ := List.eq_append_cons_of_mem ends
        cases behind with
        | nil =>
            rw [split_bracketed inside free] at found
            cases found
            exact .bracketed free
        | cons mark behind =>
            by_cases colon : mark = ':'
            · subst colon
              rw [split_bracketed_port inside behind free] at found
              cases found
              exact .bracketedPort free
            · rw [split_bracketed_other inside behind mark free colon] at found
              cases found
      · rw [split_open rest ends] at found
        cases found
    · rw [split_bare chars bracket] at found
      by_cases colon : ':' ∈ chars
      · obtain ⟨front, behind, rfl, free⟩ := List.eq_append_cons_of_mem colon
        obtain ⟨before, after⟩ := cut_at_mark ':' front behind free
        rw [before, after] at found
        dsimp only at found
        split at found
        · cases found
        · rename_i single
          cases found
          refine .barePort ?_ free single
          intro first
          exact bracket (by rw [List.head?_append, first]; rfl)
      · obtain ⟨before, after⟩ := uncut ':' chars colon
        rw [before, after] at found
        cases found
        exact .bare bracket colon
  · intro layout
    cases layout with
    | bracketed free => exact split_bracketed host free
    | bracketedPort free => exact split_bracketed_port host port free
    | bare unbracketed free =>
        obtain ⟨before, after⟩ := uncut ':' chars free
        rw [split_bare chars unbracketed, before, after]
    | barePort unbracketed free single =>
        obtain ⟨before, after⟩ := cut_at_mark ':' host port free
        have first : (host ++ ':' :: port).head? ≠ some '[' := by
          cases host with
          | nil => simp
          | cons head rest => simpa using unbracketed
        rw [split_bare _ first, before, after]
        exact if_neg single

theorem of_chars_iff (chars : List Char) (address : Address) :
    ofChars? chars = some address ↔
      ∃ port, Layout chars address.host.toList port ∧ address.host.toList ≠ [] ∧
        readPort port = some address.port := by
  unfold ofChars?
  constructor
  · intro found
    split at found
    · cases found
    · rename_i host port taken
      split at found
      · cases found
      · rename_i named
        obtain ⟨number, read, rfl⟩ := Option.map_eq_some_iff.mp found
        rw [String.toList_ofList]
        exact ⟨port, (split_iff _ _ _).mp taken, named, read⟩
  · intro written
    obtain ⟨port, layout, named, read⟩ := written
    rw [(split_iff _ _ _).mpr layout]
    dsimp only
    rw [if_neg named, read, Option.map_some, String.ofList_toList]

theorem parse_iff (text : String) (address : Address) :
    parse text = .ok address ↔
      ∃ port, Layout text.toList address.host.toList port ∧ address.host.toList ≠ [] ∧
        readPort port = some address.port := by
  rw [← of_chars_iff, parse]
  cases ofChars? text.toList <;> simp

theorem parse_refused (text : String) (refused : ∀ address, parse text ≠ .ok address) :
    parse text = .error (.invalidAddress text) := by
  unfold parse at refused ⊢
  split
  · rename_i address found
    rw [found] at refused
    exact absurd rfl (refused address)
  · rfl

def portText (port : UInt16) : List Char := Nat.toDigits 10 port.toNat

theorem port_digits (port : UInt16) : ∀ c ∈ portText port, c.isDigit = true := by
  intro c member
  exact Nat.isDigit_of_mem_toDigits (by decide) (by decide) member

theorem port_text_read (port : UInt16) (usable : port ≠ 0) :
    readPort (portText port) = some port := by
  have digits := port_digits port
  have number : portNumber (portText port) = some port := by
    have positive : 0 < port.toNat := Nat.pos_of_ne_zero fun zero => usable (UInt16.toNat_inj.mp zero)
    have all : (portText port).all Char.isDigit = true := List.all_eq_true.mpr digits
    have some : portText port ≠ [] := Nat.toDigits_ne_nil
    have value : Nat.ofDigitChars 10 (portText port) 0 = port.toNat := Nat.ofDigitChars_ten_toDigits
    rw [portNumber, if_pos ⟨some, all⟩, value]
    simp [positive, port.toNat_lt]
  unfold readPort
  split
  · rename_i empty
    exact absurd empty Nat.toDigits_ne_nil
  · rename_i signed
    exact absurd (digits '+' (signed ▸ List.mem_cons_self)) (by decide)
  · exact number

theorem port_number_usable (digits : List Char) (port : UInt16) (read : portNumber digits = some port) :
    port ≠ 0 := by
  unfold portNumber at read
  split at read
  · dsimp only at read
    split at read
    · rename_i bounds
      cases read
      intro zero
      have same := congrArg UInt16.toNat zero
      simp at same
      omega
    · cases read
  · cases read

theorem read_port_usable (text : List Char) (port : UInt16) (read : readPort text = some port) :
    port ≠ 0 := by
  unfold readPort at read
  split at read
  · cases read
    decide
  · exact port_number_usable _ port read
  · exact port_number_usable _ port read

theorem text_chars (address : Address) :
    address.text.toList =
      if ':' ∈ address.host.toList then '[' :: (address.host.toList ++ ']' :: ':' :: portText address.port)
      else address.host.toList ++ ':' :: portText address.port := by
  unfold text
  split <;> simp [portText, Nat.toList_repr]

-- A host that is written as it stands and so is taken for the inside of brackets left open.
def Misread (address : Address) : Prop :=
  address.host.toList.head? = some '[' ∧ ':' ∉ address.host.toList

instance (address : Address) : Decidable address.Misread :=
  inferInstanceAs (Decidable (_ ∧ _))

theorem port_no_mark (port : UInt16) (mark : Char) (noDigit : mark.isDigit = false) :
    mark ∉ portText port := by
  intro member
  exact absurd (port_digits port mark member) (by simp [noDigit])

theorem layout_host (chars host port : List Char) (layout : Layout chars host port) :
    ']' ∉ host ∨ host.head? ≠ some '[' ∧ ':' ∉ host := by
  cases layout with
  | bracketed free => exact Or.inl free
  | bracketedPort free => exact Or.inl free
  | bare unbracketed free => exact Or.inr ⟨unbracketed, free⟩
  | barePort unbracketed free => exact Or.inr ⟨unbracketed, free⟩

theorem layout_closed (rest host port : List Char) (layout : Layout ('[' :: rest) host port) :
    ']' ∈ rest := by
  generalize whole : '[' :: rest = chars at layout
  cases layout with
  | bracketed => cases whole; simp
  | bracketedPort => cases whole; simp
  | bare unbracketed => exact absurd (whole ▸ rfl) unbracketed
  | barePort unbracketed free =>
      cases host with
      | nil => cases whole
      | cons first back =>
          cases whole
          exact absurd rfl unbracketed

theorem clear_text_layout (address : Address) (clear : ¬ address.Misread)
    (host : ']' ∉ address.host.toList ∨ ':' ∉ address.host.toList) :
    Layout address.text.toList address.host.toList (portText address.port) := by
  rw [text_chars]
  by_cases colon : ':' ∈ address.host.toList
  · rw [if_pos colon]
    exact .bracketedPort (host.resolve_right fun free => free colon)
  · rw [if_neg colon]
    exact .barePort (fun first => clear ⟨first, colon⟩) colon
      (port_no_mark address.port ':' (by decide))

theorem misread_text_refused (address : Address) (misread : address.Misread)
    (host : ']' ∉ address.host.toList) :
    parse address.text = .error (.invalidAddress address.text) := by
  obtain ⟨first, colonless⟩ := misread
  obtain ⟨rest, inside⟩ := List.head?_eq_some_iff.mp first
  refine parse_refused _ fun other found => ?_
  obtain ⟨port, layout, _⟩ := (parse_iff _ _).mp found
  rw [text_chars, if_neg colonless, inside, List.cons_append] at layout
  rcases List.mem_append.mp (layout_closed _ _ _ layout) with inHost | behind
  · exact host (inside ▸ List.mem_cons_of_mem _ inHost)
  · rcases List.mem_cons.mp behind with colon | inPort
    · exact absurd colon (by decide)
    · exact port_no_mark address.port ']' (by decide) inPort

/-- The text of an address that was read gives it back, unless its host is taken for brackets. -/
theorem text_read_back (text : String) (address : Address) (parsed : parse text = .ok address) :
    parse address.text =
      if address.Misread then .error (.invalidAddress address.text) else .ok address := by
  obtain ⟨port, layout, named, read⟩ := (parse_iff text address).mp parsed
  have host := layout_host _ _ _ layout
  by_cases misread : address.Misread
  · rw [if_pos misread]
    exact misread_text_refused address misread
      (host.resolve_right fun bare => bare.1 misread.1)
  · rw [if_neg misread]
    have back := clear_text_layout address misread (host.imp_right And.right)
    have portRead := port_text_read address.port (read_port_usable port address.port read)
    exact (parse_iff _ _).mpr ⟨portText address.port, back, named, portRead⟩

theorem colon_host_read_back :
    parse "[::1]:" = .ok ⟨"::1", 6379⟩ ∧ parse (text ⟨"::1", 6379⟩) = .ok ⟨"::1", 6379⟩ := by
  have parsed : parse "[::1]:" = .ok ⟨"::1", 6379⟩ := by rfl
  exact ⟨parsed, (text_read_back "[::1]:" ⟨"::1", 6379⟩ parsed).trans (if_neg (by decide))⟩

theorem bracket_taken_for_brackets :
    parse "[[x]" = .ok ⟨"[x", 6379⟩ ∧
      parse (text ⟨"[x", 6379⟩) = .error (.invalidAddress "[x:6379") := by
  exact ⟨by rfl, by rfl⟩

end RespClient.Address
