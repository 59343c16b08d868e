import HostAgent.Proofs.Url.Endings
import HostAgent.Proofs.Url.Hosts

/-!
# The authority of a URL

A URL of the web is its authority, read by itself, with an ending.  What an authority is written as
is read as the same authority, provided that its host is.

* `place` — reads an authority; `parse_web` — the whole URL.
* `placeText` — user, host and number of a URL as they are written.
* `place_placeText` — and read back.
* `text_on` — the text of a URL: scheme, authority, ending.
-/

namespace HostAgent.Url

open Percent

variable {scheme : String} {part t rest spot cs : List Char} {c : Char} {u : Url} {host : Host}
  {n : ℕ}

/-! ## Reading -/

/-- Reads an authority: a URL with neither path, query nor fragment. -/
def place (scheme : String) (part : List Char) : Except Fault Url := do
  let (user, spot) := splitUser part
  let (host, written) := splitPortNumber spot false
  if host.isEmpty then throw .emptyHost
  let parsed ← Host.parse host
  let portNumber ← match written with
    | some cs => (readPortNumber scheme cs).map Prod.fst
    | none => .ok none
  let (username, password) := readUser (user.getD [])
  return { scheme, username, password, host := some parsed, portNumber, path := .segments [] }

/-- A text that ends an authority. -/
def Ender (cs : List Char) : Prop := ∀ c ∈ cs.head?, endsAuthority .web c = true

lemma splitUser_snd_subset (cs : List Char) : (splitUser cs).2 ⊆ cs := by
  intro c hc
  unfold splitUser at hc
  simp only at hc
  split at hc
  · exact hc
  · exact List.mem_reverse.mp (List.takeWhile_subset _ (List.mem_reverse.mp hc))

lemma splitPortNumber_snd_subset {b : Bool} {ds : List Char}
    (h : (splitPortNumber cs b).2 = some ds) : ds ⊆ cs := by
  induction cs generalizing b with
  | nil => simp [splitPortNumber] at h
  | cons c cs ih =>
      rw [splitPortNumber] at h
      split at h
      · cases h
        exact List.subset_cons_self _ _
      · exact fun d hd => List.mem_cons_of_mem _ (ih h hd)

/-- The number is read to the end of the authority. -/
lemma readPortNumber_snd {ds left : List Char} {on : Option ℕ} (hds : Unended ds)
    (h : readPortNumber scheme ds = .ok (on, left)) : left = [] := by
  unfold readPortNumber at h
  dsimp only at h
  split at h
  · cases h
  · split at h
    · next hleft =>
        cases h
        rw [Bool.or_eq_true, List.isEmpty_iff] at hleft
        refine hleft.resolve_right fun hback => ?_
        rw [beq_iff_eq] at hback
        have hmem := (List.dropWhile_suffix Char.isDigit).subset (List.mem_of_mem_head? hback)
        exact absurd (hds _ hmem) (by decide)
    · cases h

lemma takeWhile_append_ender (hpart : Unended part) (hrest : Ender rest) :
    (part ++ rest).takeWhile (!endsAuthority .web ·) = part ∧
      (part ++ rest).dropWhile (!endsAuthority .web ·) = rest := by
  have hall : ∀ c ∈ part, (!endsAuthority .web c) = true := fun c hc => by simp [hpart c hc]
  rw [List.takeWhile_append_of_pos hall, List.dropWhile_append_of_pos hall]
  cases rest with
  | nil => simp
  | cons c rest => simp [hrest c (by simp)]

/-- An authority is read by itself. -/
lemma authority_web (hpart : Unended part) (hrest : Ender rest) :
    authority scheme .web (part ++ rest) = (place scheme part).map fun u => (u, rest) := by
  obtain ⟨htake, hdrop⟩ := takeWhile_append_ender hpart hrest
  have hweb : (Kind.web == Kind.web) = true := rfl
  have hother : (Kind.web == Kind.other) = false := rfl
  unfold authority place
  simp only [htake, hdrop, hweb, hother, Bool.true_and, Bool.false_eq_true, if_false]
  have hspot := splitUser_snd_subset part
  rcases hsplit : splitUser part with ⟨user, spot⟩
  rw [hsplit] at hspot
  have hwritten := @splitPortNumber_snd_subset spot false
  rcases hhost : splitPortNumber spot false with ⟨host, written⟩
  cases host with
  | nil =>
      simp only [List.isEmpty_nil, if_true]
      split <;> rfl
  | cons d host =>
      cases spot with
      | nil => simp [splitPortNumber] at hhost
      | cons e spot =>
          simp only [List.isEmpty_cons, Bool.and_false, Bool.false_and, Bool.false_eq_true,
            if_false]
          cases Host.parse (d :: host) with
          | error fault => rfl
          | ok parsed =>
              cases written with
              | none => rfl
              | some ds =>
                  have hds : Unended ds := fun c hc => hpart c (hspot (hwritten (by rw [hhost]) hc))
                  cases hread : readPortNumber scheme ds with
                  | error fault => simp [bind, Except.bind, Except.map, hread]
                  | ok r =>
                      have hleft : r.2 = [] := readPortNumber_snd hds hread
                      simp [bind, Except.bind, Except.map, pure, Except.pure, hread, hleft]

/-- The authority in what follows the colon of a scheme. -/
def authorityPart (rest : List Char) : List Char :=
  (rest.dropWhile isSlash).takeWhile (!endsAuthority .web ·)

/-- What follows the authority. -/
def behindAuthority (rest : List Char) : List Char :=
  (rest.dropWhile isSlash).dropWhile (!endsAuthority .web ·)

lemma unended_authorityPart (rest : List Char) : Unended (authorityPart rest) := fun c hc => by
  simpa using List.mem_takeWhile_imp hc

lemma ender_behindAuthority (rest : List Char) : Ender (behindAuthority rest) := fun c hc => by
  have := List.head?_dropWhile_not (!endsAuthority .web ·) (rest.dropWhile isSlash)
  rw [behindAuthority] at hc
  rw [hc] at this
  simpa using this

lemma Unended.plain (h : Unended cs) : Plain cs := fun c hc => by
  have := h c hc
  constructor <;> rintro rfl <;> exact absurd this (by decide)

lemma endsAuthority_web (c : Char) :
    endsAuthority .web c = (isSlash c || c == '?' || c == '#') := by
  have hkind : (Kind.web != Kind.other) = true := rfl
  rw [endsAuthority, hkind, Bool.true_and, isSlash]
  cases c == '/' <;> cases c == '?' <;> cases c == '#' <;> cases c == '\\' <;> rfl

/-- What ends an authority is a path, a query or a fragment. -/
lemma Ender.behind (h : Ender t) : Behind t := by
  cases t with
  | nil => exact .inl rfl
  | cons c r =>
      have hc := h c rfl
      rw [endsAuthority_web, Bool.or_eq_true, Bool.or_eq_true, beq_iff_eq, beq_iff_eq] at hc
      rcases hc with (hc | rfl) | rfl
      · have hplain : Plain [c] := by
          intro d hd
          obtain rfl := List.mem_singleton.mp hd
          constructor <;> rintro rfl <;> exact absurd hc (by decide)
        rw [Behind, ← List.singleton_append, splitEnd_append hplain]
        exact .inr ⟨c, _, hc, rfl⟩
      · exact .inl (by simp [splitEnd])
      · exact .inl (by simp [splitEnd])

/-- What precedes the path, query and fragment starts with slashes, if it starts with any. -/
lemma ender_splitEnd (h : Ender t) : Ender (splitEnd t).1 := by
  intro c hc
  have hpath : (splitEnd t).1 <+: t.takeWhile (· != '#') := List.takeWhile_prefix _
  obtain ⟨r, hr⟩ := hpath.trans <| List.takeWhile_prefix _
  refine h c ?_
  rw [← hr]
  cases hy : (splitEnd t).1 with
  | nil => simp [hy] at hc
  | cons d y => rw [hy] at hc; exact hc

/-- The slashes that precede an authority are skipped. -/
lemma dropWhile_front (rest : List Char) :
    (rest.takeWhile isSlash ++
      (authorityPart rest ++ (splitEnd (behindAuthority rest)).1)).dropWhile isSlash
        = authorityPart rest ++ (splitEnd (behindAuthority rest)).1 := by
  rw [List.dropWhile_append_of_pos fun c hc => List.mem_takeWhile_imp hc]
  cases hpart : authorityPart rest with
  | cons d part =>
      have hd := unended_authorityPart rest d (by rw [hpart]; exact List.mem_cons_self)
      rw [endsAuthority_web, Bool.or_eq_false_iff, Bool.or_eq_false_iff] at hd
      rw [List.cons_append, List.dropWhile_cons_of_neg (by simp [hd.1.1])]
  | nil =>
      have hskip : rest.dropWhile isSlash = behindAuthority rest := by
        have := List.takeWhile_append_dropWhile (p := (!endsAuthority .web ·))
          (l := rest.dropWhile isSlash)
        rw [← authorityPart, ← behindAuthority, hpart] at this
        exact this.symm
      have hender := ender_behindAuthority rest
      have hhead := List.head?_dropWhile_not isSlash rest
      rw [hskip] at hhead
      cases hb : behindAuthority rest with
      | nil => rfl
      | cons c r =>
          rw [hb] at hender hhead
          have hc := hender c rfl
          simp only [List.head?_cons] at hhead
          rw [endsAuthority_web, Bool.or_eq_true, Bool.or_eq_true, beq_iff_eq, beq_iff_eq] at hc
          rcases hc with (hc | rfl) | rfl
          · simp [hc] at hhead
          · simp [splitEnd]
          · simp [splitEnd]

lemma splitEnd_rest (rest : List Char) : splitEnd rest =
    (rest.takeWhile isSlash ++ (authorityPart rest ++ (splitEnd (behindAuthority rest)).1),
      (splitEnd (behindAuthority rest)).2) := by
  have hsplit : rest = rest.takeWhile isSlash ++ (authorityPart rest ++ behindAuthority rest) := by
    rw [authorityPart, behindAuthority, List.takeWhile_append_dropWhile,
      List.takeWhile_append_dropWhile]
  have hplain : Plain (rest.takeWhile isSlash) := fun c hc => by
    have : isSlash c = true := List.mem_takeWhile_imp hc
    constructor <;> rintro rfl <;> exact absurd this (by decide)
  conv_lhs => rw [hsplit]
  rw [splitEnd_append hplain, splitEnd_append (unended_authorityPart rest).plain]

/-- **A URL of the web is its authority, read by itself, with its ending.** -/
theorem parse_web {s : String} (hs : scheme? (relevant s) = some (scheme, rest))
    (hk : kind scheme = .web) : parse s = (place scheme (authorityPart rest)).map fun u =>
      (Ending.read (behindAuthority rest)).on u := by
  have hslash : (fun c : Char => c == '/' || (Kind.web != Kind.other && c == '\\')) = isSlash := by
    funext c
    rfl
  have hend := ender_splitEnd (ender_behindAuthority rest)
  simp only [parse, hs, hk, splitEnd_rest rest, afterScheme, hslash, dropWhile_front]
  rw [authority_web (unended_authorityPart rest) hend]
  cases place scheme (authorityPart rest) with
  | error fault => rfl
  | ok u =>
      simp only [Except.map, bind, Except.bind, pure, Except.pure]
      exact congrArg _ (withEnd_eq u (behindAuthority rest))

/-! ## Blanks at the end -/

lemma splitUser_none (h : '@' ∉ spot) : splitUser spot = (none, spot) := by
  have hall : ∀ c ∈ spot.reverse, (c != '@') = true := fun c hc => by
    simpa using ne_of_mem_of_not_mem (List.mem_reverse.mp hc) h
  simp [splitUser, List.takeWhile_eq_self_iff.mpr hall]

lemma splitUser_some (h : '@' ∉ spot) (user : List Char) :
    splitUser (user ++ '@' :: spot) = (some user, spot) := by
  have hall : ∀ c ∈ spot.reverse, (c != '@') = true := fun c hc => by
    simpa using ne_of_mem_of_not_mem (List.mem_reverse.mp hc) h
  have htake : (user ++ '@' :: spot).reverse.takeWhile (· != '@') = spot.reverse := by
    rw [List.reverse_append, List.reverse_cons, List.append_assoc,
      List.takeWhile_append_of_pos hall]
    simp
  have hlength : ¬spot.length = (user ++ '@' :: spot).length := by
    rw [List.length_append, List.length_cons]
    omega
  have hrest : (user ++ '@' :: spot).length - spot.length - 1 = user.length := by
    rw [List.length_append, List.length_cons]
    omega
  rw [splitUser, htake, List.reverse_reverse]
  simp only [if_neg hlength, hrest, List.take_left]

lemma splitUser_concat (hc : c ≠ '@') (part : List Char) :
    splitUser (part ++ [c]) = ((splitUser part).1, (splitUser part).2 ++ [c]) := by
  have hconcat : ∀ {spot : List Char}, '@' ∉ spot → '@' ∉ spot ++ [c] := fun h => by
    simp [h, hc.symm]
  by_cases hat : '@' ∈ part
  · -- the last of the at signs
    obtain ⟨user, spot, rfl, hspot⟩ := List.exists_append_cons_of_mem hat
    rw [splitUser_some hspot, List.append_assoc, List.cons_append,
      splitUser_some (hconcat hspot)]
  · rw [splitUser_none hat, splitUser_none (hconcat hat)]

lemma splitPortNumber_concat (hc : c ≠ ':') (spot : List Char) (b : Bool) :
    splitPortNumber (spot ++ [c]) b = match splitPortNumber spot b with
      | (host, some ds) => (host, some (ds ++ [c]))
      | (host, none) => (host ++ [c], none) := by
  induction spot generalizing b with
  | nil => simp [splitPortNumber, hc]
  | cons d spot ih =>
      rw [List.cons_append, splitPortNumber, splitPortNumber]
      split
      · rfl
      · dsimp only
        rw [ih]
        rcases splitPortNumber spot _ with ⟨host, _ | ds⟩ <;> rfl

lemma isDigit_of_readPortNumber {ds left : List Char} {on : Option ℕ} (hds : Unended ds)
    (h : readPortNumber scheme ds = .ok (on, left)) : ∀ d ∈ ds, d.isDigit = true := by
  have hleft := readPortNumber_snd hds h
  unfold readPortNumber at h
  dsimp only at h
  split at h
  · cases h
  · split at h
    · rw [Except.ok.injEq, Prod.mk.injEq, hleft] at h
      exact List.dropWhile_eq_nil_iff.mp h.2
    · cases h

/-- A blank ends no authority. -/
lemma endsAuthority_of_isEdge (hc : isEdge c = true) : endsAuthority .web c = false := by
  have hne := fun d => @ne_of_isEdge c d hc
  rw [endsAuthority_web, isSlash]
  simp [hne '/' rfl, hne '\\' rfl, hne '?' rfl, hne '#' rfl]

/-- **An authority does not end in a blank.** -/
theorem place_concat_blank (hpart : Unended part) (hc : isEdge c = true) :
    ∃ fault, place scheme (part ++ [c]) = .error fault := by
  have hspot := splitUser_snd_subset part
  rw [place, splitUser_concat (ne_of_isEdge hc rfl)]
  generalize splitUser part = r at hspot
  obtain ⟨user, spot⟩ := r
  have hwritten := @splitPortNumber_snd_subset spot false
  dsimp only at hspot ⊢
  rw [splitPortNumber_concat (ne_of_isEdge hc rfl)]
  generalize splitPortNumber spot false = r at hwritten
  obtain ⟨host, _ | ds⟩ := r
  · obtain ⟨fault, hfault⟩ := Host.parse_concat_blank hc host
    exact ⟨fault, by simp [bind, Except.bind, hfault]⟩
  · have hds : Unended (ds ++ [c]) := by
      refine List.forall_mem_append.mpr ⟨fun d hd => hpart d (hspot (hwritten rfl hd)), ?_⟩
      simpa using endsAuthority_of_isEdge hc
    obtain ⟨fault, hfault⟩ : ∃ fault, readPortNumber scheme (ds ++ [c]) = .error fault := by
      cases hread : readPortNumber scheme (ds ++ [c]) with
      | error fault => exact ⟨fault, rfl⟩
      | ok r =>
          have hdigit := @isDigit_of_readPortNumber _ _ r.2 _ hds hread c (by simp)
          have hlow := Unicode.toNat_of_isDigit hdigit
          have hhigh := toNat_le_of_isEdge hc
          omega
    simp only [bind, Except.bind, throw, throwThe, MonadExceptOf.throw, hfault, Except.map]
    split
    · exact ⟨_, rfl⟩
    · split <;> exact ⟨_, rfl⟩

/-! ## Writing -/

/-- An authority as it is read. -/
inductive Placed (scheme : String) : Url → Prop where
  | intro (name password : List Char) (host : Host) (on : Option ℕ) (hhost : Legible host)
      (hnumber : ∀ n ∈ on, n ≤ 65535 ∧ defaultPortNumber? scheme ≠ some n) :
      Placed scheme {
        scheme, username := String.ofList (encode inUserInfo name)
        password := String.ofList (encode inUserInfo password), host := some host
        portNumber := on, path := .segments [] }

lemma Placed.host_isSome (h : Placed scheme u) : u.host.isSome := by
  cases h
  rfl

lemma Placed.scheme_eq (h : Placed scheme u) : u.scheme = scheme := by
  cases h
  rfl

lemma portNumber?_le {ds : List Char} (h : portNumber? ds = some n) : n ≤ 65535 := by
  induction ds using List.reverseRecOn generalizing n with
  | nil => cases h; omega
  | append_singleton ds d _ =>
      rw [portNumber?, List.foldlM_append, Option.bind_eq_bind, Option.bind_eq_some_iff] at h
      obtain ⟨m, -, hm⟩ := h
      simp only [List.foldlM_cons, List.foldlM_nil] at hm
      split at hm
      · cases hm; assumption
      · cases hm

lemma readPortNumber_fst {ds left : List Char} {on : Option ℕ}
    (h : readPortNumber scheme ds = .ok (on, left)) :
    ∀ n ∈ on, n ≤ 65535 ∧ defaultPortNumber? scheme ≠ some n := by
  unfold readPortNumber at h
  dsimp only at h
  split at h
  · cases h
  · next m hm =>
      split at h
      · cases h
        rintro n hn
        split at hn
        · cases hn
        · next hdefault =>
            cases hn
            exact ⟨portNumber?_le hm, fun heq => hdefault (by simp [heq])⟩
      · cases h

/-- What is read is an authority with its parts encoded. -/
lemma placed_of_place (h : place scheme part = .ok u) : Placed scheme u := by
  unfold place at h
  generalize splitUser part = r at h
  obtain ⟨user, spot⟩ := r
  simp only at h
  generalize splitPortNumber spot false = r at h
  obtain ⟨hostText, written⟩ := r
  simp only [bind, Except.bind, pure, Except.pure] at h
  split at h
  · cases h
  · split at h
    · cases h
    · next host hhost =>
        cases written with
        | none =>
            cases h
            exact .intro _ _ host none (legible_of_parse hhost) (by simp)
        | some ds =>
            cases hread : readPortNumber scheme ds with
            | error fault =>
                simp only [hread, Except.map] at h
                cases h
            | ok r =>
                simp only [hread, Except.map] at h
                cases h
                exact .intro _ _ host r.1 (legible_of_parse hhost)
                  (@readPortNumber_fst _ _ r.2 _ hread)

/-- User name and password as they are written. -/
def userText (name password : List Char) : List Char :=
  if name.isEmpty && password.isEmpty then []
  else name ++ ((if password.isEmpty then [] else ':' :: password) ++ ['@'])

/-- A number as it is written. -/
def numberText (on : Option ℕ) : List Char := on.elim [] fun n => ':' :: Nat.toDigits 10 n

/-- The authority of a URL as it is written. -/
def placeText (u : Url) : List Char := (u.userInfo ++ u.hostAndPortNumber).toList

lemma toList_userInfo (u : Url) :
    u.userInfo.toList = userText u.username.toList u.password.toList := by
  have hempty : ∀ s : String, s.isEmpty = s.toList.isEmpty := fun s => by
    rw [Bool.eq_iff_iff, String.isEmpty_iff, List.isEmpty_iff, String.toList_eq_nil_iff]
  rw [userInfo, userText, hempty, hempty]
  split_ifs <;> simp

lemma placeText_eq (u : Url) (hhost : u.host = some host) : placeText u =
    userText u.username.toList u.password.toList ++
      (host.text.toList ++ numberText u.portNumber) := by
  rw [placeText, String.toList_append, toList_userInfo, hostAndPortNumber, hhost,
    String.toList_append, numberText]
  cases u.portNumber with
  | none => simp
  | some n => simp

/-- Digits are read as the number they write. -/
lemma portNumber?_toDigits (h : n ≤ 65535) : portNumber? (Nat.toDigits 10 n) = some n := by
  have hvalue : ∀ d < 10, (Nat.digitChar d).toNat - 48 = d := by decide
  induction n using Nat.strongRecOn with
  | ind n ih =>
      by_cases hlt : n < 10
      · rw [Nat.toDigits_of_lt_base hlt, portNumber?]
        simp [hvalue n hlt, h]
      · have hrest := ih (n / 10) (by omega) (by omega)
        rw [Nat.toDigits_of_base_le (by decide) (not_lt.mp hlt), portNumber?, List.foldlM_append,
          ← portNumber?, hrest, Option.bind_eq_bind, Option.bind_some]
        have hsum : 10 * (n / 10) + n % 10 = n := by omega
        simp [hvalue (n % 10) (by omega), hsum, h]

lemma readPortNumber_toDigits (h : n ≤ 65535) (hdefault : defaultPortNumber? scheme ≠ some n) :
    readPortNumber scheme (Nat.toDigits 10 n) = .ok (some n, []) := by
  have hdigits : ∀ c ∈ Nat.toDigits 10 n, c.isDigit = true := fun c hc =>
    Nat.isDigit_of_mem_toDigits (by decide) (by decide) hc
  have htake : (Nat.toDigits 10 n).takeWhile Char.isDigit = Nat.toDigits 10 n :=
    List.takeWhile_eq_self_iff.mpr hdigits
  have hdrop : (Nat.toDigits 10 n).dropWhile Char.isDigit = [] :=
    List.dropWhile_eq_nil_iff.mpr hdigits
  simp [readPortNumber, htake, hdrop, portNumber?_toDigits h, hdefault]

/-- What is written for user name and password is read as them. -/
lemma readUser_userText (name password : List Char) (h : '@' ∉ spot) :
    ∃ user, splitUser (userText (encode inUserInfo name) (encode inUserInfo password) ++ spot)
        = (user, spot) ∧ readUser (user.getD []) =
      (String.ofList (encode inUserInfo name), String.ofList (encode inUserInfo password)) := by
  have hcolon : ∀ c ∈ encode inUserInfo name, (c != ':') = true := fun c hc => by
    have := (fits_of_mem_encode sparing_inUserInfo hc).2
    simp only [bne_iff_ne, ne_eq]
    rintro rfl
    exact absurd this (by decide)
  unfold userText
  split
  · next hempty =>
      rw [Bool.and_eq_true, List.isEmpty_iff, List.isEmpty_iff] at hempty
      exact ⟨none, splitUser_none h, by simp [hempty.1, hempty.2, readUser]⟩
  · refine ⟨some (encode inUserInfo name ++ if (encode inUserInfo password).isEmpty then []
      else ':' :: encode inUserInfo password), ?_, ?_⟩
    · rw [← splitUser_some h]
      simp
    · split
      · next hpassword =>
          rw [List.isEmpty_iff] at hpassword
          simp [readUser, List.takeWhile_eq_self_iff.mpr hcolon, hpassword,
            encode_encode sparing_inUserInfo]
      · simp [readUser, List.takeWhile_append_of_pos hcolon, encode_encode sparing_inUserInfo]

lemma splitPortNumber_numberText (on : Option ℕ) :
    splitPortNumber (numberText on) false = ([], on.map (Nat.toDigits 10)) := by
  cases on <;> simp [numberText, splitPortNumber]

lemma mem_numberText {on : Option ℕ} (h : c ∈ numberText on) : c = ':' ∨ c.isDigit = true := by
  cases on with
  | none => simp [numberText] at h
  | some n =>
      rcases List.mem_cons.mp h with rfl | h
      · exact .inl rfl
      · exact .inr (Nat.isDigit_of_mem_toDigits (by decide) (by decide) h)

lemma mem_userText {name password : List Char}
    (h : c ∈ userText (encode inUserInfo name) (encode inUserInfo password)) :
    Fits inUserInfo c ∨ c = ':' ∨ c = '@' := by
  unfold userText at h
  split_ifs at h
  all_goals simp only [List.mem_append, List.mem_cons, List.not_mem_nil, or_false, false_or] at h
  · rcases h with h | rfl
    · exact .inl (fits_of_mem_encode sparing_inUserInfo h)
    · exact .inr (.inr rfl)
  · rcases h with h | (rfl | h) | rfl
    · exact .inl (fits_of_mem_encode sparing_inUserInfo h)
    · exact .inr (.inl rfl)
    · exact .inl (fits_of_mem_encode sparing_inUserInfo h)
    · exact .inr (.inr rfl)

/-- **What an authority is written as is read as the authority.** -/
theorem place_placeText (h : Placed scheme u) : place scheme (placeText u) = .ok u := by
  obtain ⟨name, password, host, on, hl, hnumber⟩ := h
  have hat : '@' ∉ host.text.toList ++ numberText on := by
    rw [List.mem_append, not_or]
    refine ⟨hl.noAt, fun h => ?_⟩
    rcases mem_numberText h with h | h <;> exact absurd h (by decide)
  obtain ⟨user, hsplit, huser⟩ := readUser_userText name password hat
  have hne : host.text.toList.isEmpty = false := by simpa using hl.ne_nil
  rw [placeText_eq _ rfl]
  simp only [String.toList_ofList]
  rw [place, hsplit]
  simp only [hl.whole, splitPortNumber_numberText, List.append_nil, hne, hl.parse_text, huser]
  cases on with
  | none => rfl
  | some n =>
      obtain ⟨hle, hdefault⟩ := hnumber n rfl
      simp only [Option.map_some, readPortNumber_toDigits hle hdefault]
      rfl

/-- Nothing that is written ends an authority. -/
lemma unended_placeText (h : Placed scheme u) : Unended (placeText u) := by
  obtain ⟨name, password, host, on, hl, -⟩ := h
  intro c hc
  rw [placeText_eq _ rfl] at hc
  simp only [String.toList_ofList, List.mem_append] at hc
  have hends : ∀ d ∈ ['/', '\\', '?', '#'],
      Fits inUserInfo c ∨ c.isDigit = true ∨ c = ':' ∨ c = '@' → c ≠ d := by
    rintro d hd h rfl
    simp only [List.mem_cons, List.not_mem_nil, or_false] at hd
    rcases hd with rfl | rfl | rfl | rfl <;>
      · rcases h with h | h | h | h
        · exact absurd h.2 (by decide)
        all_goals exact absurd h (by decide)
  have hother : Fits inUserInfo c ∨ c.isDigit = true ∨ c = ':' ∨ c = '@' →
      endsAuthority .web c = false := fun h => by
    rw [endsAuthority_web, isSlash]
    simp [hends '/' (by simp) h, hends '\\' (by simp) h, hends '?' (by simp) h,
      hends '#' (by simp) h]
  rcases hc with hc | hc | hc
  · rcases mem_userText hc with h | h | h
    · exact hother (.inl h)
    · exact hother (.inr (.inr (.inl h)))
    · exact hother (.inr (.inr (.inr h)))
  · exact hl.unended c hc
  · rcases mem_numberText hc with h | h
    · exact hother (.inr (.inr (.inl h)))
    · exact hother (.inr (.inl h))

/-- What may stand in a part of a URL is neither a blank nor a control character. -/
lemma isEdge_of_fits {p : Char → Bool} (hp : ∀ c, p c = false → controls c = false ∧ c ≠ ' ')
    (h : Fits p c) : isEdge c = false := by
  obtain ⟨hcontrols, hspace⟩ := hp c h.2
  have hval : c.val ≠ 0x20 := fun h => hspace (Char.ext h)
  simp only [controls, Bool.or_eq_false_iff, decide_eq_false_iff_not] at hcontrols
  rw [isEdge, decide_eq_false_iff_not, UInt32.le_iff_toNat_le]
  have hlt := UInt32.lt_iff_toNat_lt.not.mp hcontrols.1
  have hne : c.val.toNat ≠ 32 := fun h => hval (UInt32.toNat_inj.mp h)
  have h32 : (0x20 : UInt32).toNat = 32 := rfl
  rw [h32] at hlt ⊢
  omega

lemma visible_inPath (c : Char) (h : inPath c = false) : controls c = false ∧ c ≠ ' ' := by
  simp only [inPath, inFragment, Bool.or_eq_false_iff] at h
  exact ⟨by tauto, by have : (c == ' ') = false := by tauto
                      simpa using this⟩

lemma visible_inUserInfo (c : Char) (h : inUserInfo c = false) : controls c = false ∧ c ≠ ' ' := by
  simp only [inUserInfo, Bool.or_eq_false_iff] at h
  exact visible_inPath c (by tauto)

lemma visible_inFragment (c : Char) (h : inFragment c = false) : controls c = false ∧ c ≠ ' ' := by
  simp only [inFragment, Bool.or_eq_false_iff] at h
  exact ⟨by tauto, by have : (c == ' ') = false := by tauto
                      simpa using this⟩

lemma visible_inWebQuery (c : Char) (h : inWebQuery c = false) : controls c = false ∧ c ≠ ' ' := by
  simp only [inWebQuery, inQuery, Bool.or_eq_false_iff] at h
  exact ⟨by tauto, by have : (c == ' ') = false := by tauto
                      simpa using this⟩

/-- Nothing in a written authority is cut off or cut out. -/
lemma visible_placeText (h : Placed scheme u) (hc : c ∈ placeText u) : isEdge c = false := by
  obtain ⟨name, password, host, on, hl, -⟩ := h
  rw [placeText_eq _ rfl] at hc
  simp only [String.toList_ofList, List.mem_append] at hc
  rcases hc with hc | hc | hc
  · rcases mem_userText hc with h | rfl | rfl
    · exact isEdge_of_fits visible_inUserInfo h
    · rfl
    · rfl
  · exact hl.visible c hc
  · rcases mem_numberText hc with rfl | h
    · rfl
    · rw [Char.isDigit, Bool.and_eq_true, decide_eq_true_iff, ge_iff_le,
        UInt32.le_iff_toNat_le] at h
      rw [isEdge, decide_eq_false_iff_not, UInt32.le_iff_toNat_le]
      have h48 : '0'.val.toNat = 48 := rfl
      have h32 : (0x20 : UInt32).toNat = 32 := rfl
      rw [h48] at h
      rw [h32]
      omega

/-- Nothing in a written ending is cut off or cut out. -/
lemma visible_text (t : List Char) (hc : c ∈ (Ending.read t).text) : isEdge c = false := by
  simp only [Ending.text, List.mem_append] at hc
  rcases hc with hc | hc | hc
  · obtain ⟨s, hs, hc⟩ := List.mem_flatMap.mp hc
    rcases List.mem_cons.mp hc with rfl | hc
    · rfl
    · exact isEdge_of_fits visible_inPath ((canonical_of_mem_segments hs).fits c hc)
  · cases hq : (splitEnd t).2.1 with
    | none => simp [Ending.read, hq] at hc
    | some q =>
        simp only [Ending.read, hq, Option.map_some, Option.elim_some, List.mem_cons] at hc
        rcases hc with rfl | hc
        · rfl
        · exact isEdge_of_fits visible_inWebQuery (fits_of_mem_encode sparing_inWebQuery hc)
  · cases hf : (splitEnd t).2.2 with
    | none => simp [Ending.read, hf] at hc
    | some f =>
        simp only [Ending.read, hf, Option.map_some, Option.elim_some, List.mem_cons] at hc
        rcases hc with rfl | hc
        · rfl
        · exact isEdge_of_fits visible_inFragment (fits_of_mem_encode sparing_inFragment hc)

lemma placeText_ne_nil (h : Placed scheme u) : placeText u ≠ [] := by
  obtain ⟨name, password, host, on, hl, -⟩ := h
  rw [placeText_eq _ rfl]
  simp [hl.ne_nil]

/-- The slashes at the end of a written URL stand behind the authority. -/
lemma rdropWhile_placeText (h : Placed scheme u) (front t : List Char) :
    (front ++ (placeText u ++ t)).rdropWhile (· == '/') =
      front ++ (placeText u ++ t.rdropWhile (· == '/')) := by
  have hlast := List.dropLast_append_getLast (placeText_ne_nil h)
  have hslash : ((placeText u).getLast (placeText_ne_nil h) == '/') = false := by
    have hunended := unended_placeText h _ (List.getLast_mem (placeText_ne_nil h))
    rw [beq_eq_false_iff_ne]
    intro heq
    rw [heq] at hunended
    exact absurd hunended (by decide)
  rw [← hlast]
  simp only [List.append_assoc, List.singleton_append]
  rw [← List.append_assoc, List.rdropWhile_append_cons (p := (· == '/')) hslash, List.append_assoc]

/-- The text of a path is its segments, with a slash before each. -/
lemma toList_text_segments (segs : List (List Char)) :
    (Path.segments (segs.map String.ofList)).text.toList = pathText segs := by
  rw [Path.text, String.toList_join, List.flatMap_map, List.flatMap_map, pathText]
  congr 1
  funext s
  simp

/-- **The text of a URL is its scheme, its authority and its ending.** -/
theorem toList_text_on (h : u.host.isSome) (e : Ending) :
    (e.on u).text.toList = u.scheme.toList ++ ':' :: '/' :: '/' :: (placeText u ++ e.text) := by
  obtain ⟨host, hhost⟩ := Option.isSome_iff_exists.mp h
  obtain ⟨segs, query, fragment⟩ := e
  simp only [Url.text, Ending.on, beforePath, hhost, pathAndQuery, String.toList_append,
    toList_text_segments]
  cases query <;> cases fragment <;>
    simp [Ending.text, placeText, userInfo, hostAndPortNumber, hhost]

end HostAgent.Url
