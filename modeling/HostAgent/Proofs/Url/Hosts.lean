import HostAgent.Proofs.Text.Utf8
import HostAgent.Proofs.Url.DomainNames
import HostAgent.Proofs.Url.Ipv4
import HostAgent.Proofs.Url.Ipv6
import HostAgent.Proofs.Url.Relevant

/-!
# Hosts are read as they are written

* `Legible` — a host whose text is read as the host, wherever it stands in an authority.
* `legible_of_parse` — every host that is read is.
* `Host.parse_concat_blank` — a text with a blank at its end is none.
-/

namespace HostAgent.Url

variable {cs t : List Char} {c : Char} {host : Host}

/-- A text that an authority may be: nothing in it ends one. -/
def Unended (cs : List Char) : Prop := ∀ c ∈ cs, endsAuthority .web c = false

/-- A host whose text is read as the host, whatever number follows. -/
structure Legible (host : Host) : Prop where
  parse_text : Host.parse host.text.toList = .ok host
  whole : ∀ t, splitPortNumber (host.text.toList ++ t) false =
    (host.text.toList ++ (splitPortNumber t false).1, (splitPortNumber t false).2)
  noAt : '@' ∉ host.text.toList
  unended : Unended host.text.toList
  visible : ∀ c ∈ host.text.toList, isEdge c = false
  ne_nil : host.text.toList ≠ []

/-! ## Names and addresses of four bytes -/

/-- The host that the ASCII form of a name stands for. -/
def Host.ofAscii (ascii : List Char) : Except Fault Host :=
  if ascii.isEmpty then .error .emptyHost
  else if Ipv4.endsInNumber ascii then
    ((Ipv4.parse? ascii).map Host.ipv4).elim (.error .ipv4) .ok
  else .ok (.name (String.ofList ascii))

lemma Host.parse_of_not_bracket (h : ∀ r, cs ≠ '[' :: r) : Host.parse cs =
    ((String.fromUTF8? ⟨(Percent.decode cs).toArray⟩).bind
      (DomainName.ascii? ·.toList)).elim (.error .domain) Host.ofAscii := by
  unfold Host.parse
  split
  · exact absurd rfl (h _)
  · split <;> next heq => rw [heq]; rfl

lemma not_forbidden (h : DomainName.forbidden c = false) :
    isEdge c = false ∧ ∀ d ∈ ['#', '%', '/', ':', '?', '@', '[', '\\', ']'], c ≠ d := by
  simp only [DomainName.forbidden, Bool.or_eq_false_iff, beq_eq_false_iff_ne,
    decide_eq_false_iff_not] at h
  refine ⟨by simp [isEdge, h], fun d hd => ?_⟩
  simp only [List.mem_cons, List.not_mem_nil, or_false] at hd
  rcases hd with rfl | rfl | rfl | rfl | rfl | rfl | rfl | rfl | rfl <;> simp [h]

/-- A text that is its own ASCII form is read as it stands. -/
lemma Host.parse_of_ascii (hascii : DomainName.ascii? cs = some cs) :
    Host.parse cs = Host.ofAscii cs := by
  obtain ⟨-, -, -, -, -, -, hforbidden⟩ := DomainName.ascii?_eq_some.mp hascii
  have hplain : ∀ c ∈ cs, ∀ d ∈ ['#', '%', '/', ':', '?', '@', '[', '\\', ']'], c ≠ d := fun c hc =>
    (not_forbidden (by simpa using List.any_eq_false.mp hforbidden c hc)).2
  have hpercent : '%' ∉ cs := fun hc => hplain _ hc '%' (by simp) rfl
  rw [parse_of_not_bracket, Percent.decode_of_not_mem hpercent, Text.fromUTF8?_flatMap,
    Option.bind_some, String.toList_ofList, hascii]
  · rfl
  · rintro r rfl
    exact hplain '[' List.mem_cons_self '[' (by simp) rfl

/-- Without brackets and colons a text is no more than a host. -/
lemma splitPortNumber_append (h : ∀ c ∈ cs, ∀ d ∈ [':', '[', ']'], c ≠ d) (b : Bool)
    (t : List Char) : splitPortNumber (cs ++ t) b
      = (cs ++ (splitPortNumber t b).1, (splitPortNumber t b).2) := by
  induction cs with
  | nil => rfl
  | cons c cs ih =>
      obtain ⟨hc, hcs⟩ := List.forall_mem_cons.mp h
      have hcolon := hc ':' (by simp)
      have hopen := hc '[' (by simp)
      have hclose := hc ']' (by simp)
      rw [List.cons_append, splitPortNumber, if_neg (by simp [hcolon]), if_neg hopen,
        if_neg hclose]
      dsimp only
      rw [ih hcs]
      rfl

/-- A host that is its own ASCII form is legible. -/
lemma legible_of_ascii (hascii : DomainName.ascii? host.text.toList = some host.text.toList)
    (hhost : Host.ofAscii host.text.toList = .ok host) : Legible host := by
  obtain ⟨-, -, -, -, -, -, hforbidden⟩ := DomainName.ascii?_eq_some.mp hascii
  have hplain := fun c hc => not_forbidden (by simpa using List.any_eq_false.mp hforbidden c hc)
  have hcolon : ∀ c ∈ host.text.toList, ∀ d ∈ [':', '[', ']'], c ≠ d := fun c hc d hd =>
    (hplain c hc).2 d (by simp at hd ⊢; tauto)
  refine ⟨(Host.parse_of_ascii hascii).trans hhost, splitPortNumber_append hcolon false,
    fun hc => (hplain _ hc).2 '@' (by simp) rfl, fun c hc => ?_, fun c hc => (hplain c hc).1,
    fun hnil => ?_⟩
  · have hne := (hplain c hc).2
    simp [endsAuthority, hne '/' (by simp), hne '?' (by simp), hne '#' (by simp),
      hne '\\' (by simp)]
  · rw [hnil] at hhost
    cases hhost

/-- A name or an address of four bytes. -/
lemma legible_of_ofAscii {name ascii : List Char} (hascii : DomainName.ascii? name = some ascii)
    (hhost : Host.ofAscii ascii = .ok host) : Legible host := by
  have hself := DomainName.ascii?_ascii hascii
  unfold Host.ofAscii at hhost
  split_ifs at hhost with hempty hnumber
  · cases haddress : Ipv4.parse? ascii with
    | none =>
        rw [haddress] at hhost
        cases hhost
    | some a =>
        rw [haddress] at hhost
        cases hhost
        have hread := Ipv4.parse?_text (Ipv4.lt_of_parse? haddress)
        have hne : (Ipv4.text a).toList ≠ [] := fun hnil => by
          have hends := Ipv4.endsInNumber_text a
          rw [hnil] at hends
          cases hends
        refine legible_of_ascii (DomainName.ascii?_of_digits fun c => Ipv4.mem_text) ?_
        rw [Host.ofAscii, Host.text, if_neg (by simpa using hne),
          if_pos (Ipv4.endsInNumber_text a), hread]
        rfl
  · cases hhost
    refine legible_of_ascii ?_ ?_ <;> rw [Host.text, String.toList_ofList]
    · exact hself
    · rw [Host.ofAscii, if_neg hempty, if_neg hnumber]

/-! ## Addresses of sixteen bytes -/

lemma toList_text_ipv6 (gs : List ℕ) :
    (Host.ipv6 gs).text.toList = '[' :: ((Ipv6.text gs).toList ++ [']']) := by
  have hopen : "[".toList = ['['] := String.toList_ofList
  have hclose : "]".toList = [']'] := String.toList_ofList
  rw [Host.text, String.toList_append, String.toList_append, hopen, hclose]
  rfl

/-- Between brackets colons stand for themselves. -/
lemma splitPortNumber_bracket (h : ∀ c ∈ cs, c ≠ '[' ∧ c ≠ ']') (t : List Char) :
    splitPortNumber (cs ++ ']' :: t) true
      = (cs ++ ']' :: (splitPortNumber t false).1, (splitPortNumber t false).2) := by
  induction cs with
  | nil => rfl
  | cons c cs ih =>
      obtain ⟨⟨hopen, hclose⟩, hcs⟩ := List.forall_mem_cons.mp h
      rw [List.cons_append, splitPortNumber, if_neg (by simp), if_neg hopen, if_neg hclose]
      dsimp only
      rw [ih hcs]
      rfl

lemma legible_ipv6 {gs : List ℕ} (h : Ipv6.parse? cs = some gs) : Legible (.ipv6 gs) := by
  obtain ⟨hlen, hsmall⟩ := Ipv6.eight_of_parse? h
  have hchars : ∀ c ∈ (Ipv6.text gs).toList, c ∈ ':' :: Text.Hex.digits := fun c hc =>
    List.mem_cons.mpr (Ipv6.mem_text hc)
  have hall : (':' :: Text.Hex.digits).all (fun c => c != '[' && c != ']' && c != '@' &&
      !endsAuthority .web c && !isEdge c) = true := by decide +kernel
  have hplain : ∀ c ∈ (Ipv6.text gs).toList, ((((c ≠ '[' ∧ c ≠ ']') ∧ c ≠ '@') ∧
      endsAuthority .web c = false) ∧ isEdge c = false) := fun c hc => by
    simpa using List.all_eq_true.mp hall c (hchars c hc)
  have hmem {P : Char → Prop} (hopen : P '[') (hclose : P ']')
      (hinner : ∀ c ∈ (Ipv6.text gs).toList, P c) : ∀ c ∈ (Host.ipv6 gs).text.toList, P c := by
    rw [toList_text_ipv6]
    exact List.forall_mem_cons.mpr
      ⟨hopen, List.forall_mem_append.mpr ⟨hinner, by simpa using hclose⟩⟩
  refine ⟨?_, fun t => ?_, fun hc => ?_, ?_, ?_, ?_⟩
  · rw [toList_text_ipv6, Host.parse, Host.parseBracketed, List.reverse_append]
    simp only [List.reverse_singleton, List.singleton_append, List.reverse_reverse,
      Ipv6.parse?_text hsmall hlen]
    rfl
  · rw [toList_text_ipv6, List.cons_append, splitPortNumber, if_neg (by simp), if_pos rfl,
      List.append_assoc, List.singleton_append]
    dsimp only
    rw [splitPortNumber_bracket fun c hc => (hplain c hc).1.1.1]
    simp
  · exact hmem (P := (· ≠ '@')) (by decide) (by decide) (fun c hc => (hplain c hc).1.1.2) _ hc rfl
  · exact hmem rfl rfl fun c hc => (hplain c hc).1.2
  · exact hmem rfl rfl fun c hc => (hplain c hc).2
  · rw [toList_text_ipv6]
    exact List.cons_ne_nil _ _

/-! ## All hosts -/

lemma ne_of_isEdge {d : Char} (hc : isEdge c = true) (hd : isEdge d = false) : c ≠ d := by
  rintro rfl
  rw [hc] at hd
  cases hd

lemma toNat_le_of_isEdge (h : isEdge c = true) : c.toNat ≤ 0x20 := by
  simpa [isEdge, UInt32.le_iff_toNat_le] using h

/-- A blank is no digit. -/
lemma value?_of_blank (h : isEdge c = true) : Text.Hex.value? c = none := by
  have hall : Text.Hex.digits.all (!isEdge ·) = true := by decide +kernel
  rw [← Option.not_isSome_iff_eq_none]
  intro hsome
  have hdigit := List.all_eq_true.mp hall c (Text.Hex.mem_digits hsome)
  simp [h] at hdigit

/-- **Every host that is read is read again as it is written.** -/
theorem legible_of_parse (h : Host.parse cs = .ok host) : Legible host := by
  by_cases hbracket : ∃ r, cs = '[' :: r
  · obtain ⟨r, rfl⟩ := hbracket
    rw [Host.parse, Host.parseBracketed] at h
    split at h
    · next inner heq =>
      cases haddress : Ipv6.parse? inner.reverse with
      | none =>
          rw [haddress] at h
          cases h
      | some gs =>
          rw [haddress] at h
          cases h
          exact legible_ipv6 haddress
    · cases h
  · rw [Host.parse_of_not_bracket fun r hr => hbracket ⟨r, hr⟩] at h
    cases hname : (String.fromUTF8? ⟨(Percent.decode cs).toArray⟩).bind
        (DomainName.ascii? ·.toList) with
    | none =>
        rw [hname] at h
        cases h
    | some ascii =>
        rw [hname] at h
        obtain ⟨name, -, hascii⟩ := Option.bind_eq_some_iff.mp hname
        exact legible_of_ofAscii hascii h

/-- **A text with a blank at its end is no host.** -/
theorem Host.parse_concat_blank (hblank : isEdge c = true) (cs : List Char) :
    ∃ fault, Host.parse (cs ++ [c]) = .error fault := by
  have hnat := toNat_le_of_isEdge hblank
  by_cases hbracket : ∃ r, cs = '[' :: r
  · obtain ⟨r, rfl⟩ := hbracket
    have hreverse : (r ++ [c]).reverse = c :: r.reverse := List.reverse_concat
    refine ⟨.ipv6, ?_⟩
    rw [List.cons_append, Host.parse, Host.parseBracketed, hreverse]
    split
    · next heq => exact absurd (List.cons.inj heq).1 (ne_of_isEdge hblank rfl)
    · rfl
  · have hnot : ∀ r, cs ++ [c] ≠ '[' :: r := by
      rintro r heq
      cases cs with
      | nil => exact ne_of_isEdge hblank rfl (List.cons.inj heq).1
      | cons d cs => exact hbracket ⟨cs, by rw [(List.cons.inj heq).1]⟩
    rw [Host.parse_of_not_bracket hnot]
    cases hname : (String.fromUTF8? ⟨(Percent.decode (cs ++ [c])).toArray⟩).bind
        (DomainName.ascii? ·.toList) with
    | none => exact ⟨.domain, rfl⟩
    | some ascii =>
        obtain ⟨name, hread, hascii⟩ := Option.bind_eq_some_iff.mp hname
        -- the byte of the blank is not hidden in a percent form
        have hbyte : UInt8.ofNat c.toNat ∈ name.toList.flatMap String.utf8EncodeChar := by
          rw [← Text.eq_flatMap_of_fromUTF8? hread, Percent.decode_append (value?_of_blank hblank),
            Percent.decode_cons (ne_of_isEdge hblank rfl), Text.utf8EncodeChar_of_lt (by omega)]
          simp
        obtain ⟨d, hd, hmem⟩ := List.mem_flatMap.mp hbyte
        have hsame : (UInt8.ofNat c.toNat).toNat = c.toNat := by
          rw [UInt8.toNat_ofNat']
          omega
        have hdnat := Text.toNat_of_mem_utf8 hmem (by omega)
        rw [DomainName.ascii?_of_blank hd (by omega)] at hascii
        cases hascii

end HostAgent.Url
