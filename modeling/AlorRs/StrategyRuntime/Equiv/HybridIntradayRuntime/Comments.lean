import AlorRs.StrategyRuntime.Equiv.HybridIntradayRuntime.Parts
import AlorRs.StrategyRuntime.Runtime.Emission

/-!
# Correctness of the comment tags

A tag comes back from the comment of its order exactly if the comment is unharmed on its way to
the broker (`parseHybridTag_sanitizeComment`).
-/

namespace AlorRs.HybridIntraday

open StrategyRuntime

/-! ### Parts of a comment -/

variable {c : Char}

theorem splitOnce_eq_some {part key value : List Char} (h : splitOnce c part = some (key, value)) :
    part = key ++ c :: value := by
  induction part generalizing key with
  | nil => cases h
  | cons d part ih =>
    rw [splitOnce] at h
    split_ifs at h with hd
    · cases h
      rw [hd, List.nil_append]
    · obtain ⟨⟨key, value⟩, hrest, heq⟩ := Option.map_eq_some_iff.mp h
      cases heq
      rw [ih hrest, List.cons_append]

theorem splitOn_parts (c : Char) (text : List Char) :
    (∀ part ∈ text.splitOn c, ∀ d ∈ part, d ∈ text ∧ d ≠ c) ∧
      ((text.splitOn c).map (·.length + 1)).sum = text.length + 1 := by
  induction text with
  | nil => simp
  | cons d text ih =>
    rw [List.splitOn_cons_eq_if_modifyHead]
    obtain ⟨part, parts, hsplit⟩ := List.exists_cons_of_ne_nil (List.splitOn_ne_nil c text)
    obtain ⟨hmem, hsum⟩ := ih
    by_cases hd : d = c
    · rw [if_pos (beq_iff_eq.mpr hd)]
      refine ⟨fun part hpart e he => ?_, by simp [hsum, Nat.add_comm]⟩
      rcases List.mem_cons.mp hpart with rfl | hpart
      · cases he
      · exact ⟨List.mem_cons_of_mem _ (hmem part hpart e he).1, (hmem part hpart e he).2⟩
    · rw [if_neg (by simpa using hd)]
      rw [hsplit] at hmem hsum ⊢
      refine ⟨fun other hother e he => ?_, ?_⟩
      · rcases List.mem_cons.mp hother with rfl | hother
        · rcases List.mem_cons.mp he with rfl | he
          · exact ⟨List.mem_cons_self, hd⟩
          · exact ⟨List.mem_cons_of_mem _ (hmem part List.mem_cons_self e he).1,
              (hmem part List.mem_cons_self e he).2⟩
        · exact ⟨List.mem_cons_of_mem _ (hmem other (List.mem_cons_of_mem _ hother) e he).1,
            (hmem other (List.mem_cons_of_mem _ hother) e he).2⟩
      · simp only [List.modifyHead_cons, List.map_cons, List.sum_cons, List.length_cons] at hsum ⊢
        omega

theorem mem_intercalate {sep : Char} {parts : List (List Char)} (h : c ∈ [sep].intercalate parts) :
    c = sep ∨ ∃ part ∈ parts, c ∈ part := by
  induction parts with
  | nil => cases h
  | cons part parts ih =>
    by_cases hparts : parts = []
    · subst hparts
      rw [List.intercalate_singleton] at h
      exact .inr ⟨part, List.mem_cons_self, h⟩
    · rw [List.intercalate_cons_of_ne_nil hparts] at h
      simp only [List.mem_append, List.mem_singleton] at h
      rcases h with (h | h) | h
      · exact .inr ⟨part, List.mem_cons_self, h⟩
      · exact .inl h
      · exact (ih h).imp_right fun ⟨other, hother, hmem⟩ =>
          ⟨other, List.mem_cons_of_mem _ hother, hmem⟩

def TagParts.weight (parts : TagParts) : ℕ :=
  parts.sid.elim 0 (·.toList.length + 5) + parts.cycle.elim 0 (·.toList.length + 3) +
    parts.owner.elim 0 (fun owner => (ownerCode owner).toList.length + 3) +
    parts.role.elim 0 (fun role => (roleCode role).toList.length + 3)

theorem ownerCode_parseOwner {value : String} {owner : Owner} (h : parseOwner value = some owner) :
    ownerCode owner = value := by
  have hfound := List.find?_some h
  simpa using hfound

theorem roleCode_parseRole {value : String} {role : TagRole} (h : parseRole value = some role) :
    roleCode role = value := by
  have hfound := List.find?_some h
  simpa using hfound

theorem TagParts.read_spec {parts parts' : TagParts} {part : List Char}
    (h : parts.read part = some parts') :
    parts'.weight ≤ parts.weight + (part.length + 1) ∧
      ∀ sid, parts'.sid = some sid → parts.sid = some sid ∨ ∀ c ∈ sid.toList, c ∈ part := by
  obtain ⟨⟨key, value⟩, hsplit, rfl⟩ := Option.map_eq_some_iff.mp h
  have hpart := splitOnce_eq_some hsplit
  have hlength : part.length = key.length + value.length + 1 := by
    rw [hpart, List.length_append, List.length_cons, Nat.add_assoc]
  have hvalue : ∀ c ∈ value, c ∈ part := fun c hc => by simp [hpart, hc]
  unfold weight
  dsimp only
  -- each key is longer than the code that is read from its value
  split_ifs with hsid hcycle howner hrole
  · refine ⟨?_, fun sid heq => .inr (by cases heq; simpa using hvalue)⟩
    simp [hsid] at hlength ⊢
    omega
  · refine ⟨?_, fun sid heq => .inl heq⟩
    simp [hcycle] at hlength ⊢
    omega
  · refine ⟨?_, fun sid heq => .inl heq⟩
    cases hparse : parseOwner (String.ofList value) with
    | none =>
      dsimp only [Option.elim]
      omega
    | some owner =>
      simp [howner, ownerCode_parseOwner hparse] at hlength ⊢
      omega
  · refine ⟨?_, fun sid heq => .inl heq⟩
    cases hparse : parseRole (String.ofList value) with
    | none =>
      dsimp only [Option.elim]
      omega
    | some role =>
      simp [hrole, roleCode_parseRole hparse] at hlength ⊢
      omega
  · exact ⟨Nat.le_add_right _ _, fun sid heq => .inl heq⟩

theorem foldlM_read_spec {ps : List (List Char)} {parts parts' : TagParts}
    (h : ps.foldlM TagParts.read parts = some parts') :
    parts'.weight ≤ parts.weight + (ps.map (·.length + 1)).sum ∧ ∀ sid, parts'.sid = some sid →
        parts.sid = some sid ∨ ∃ part ∈ ps, ∀ c ∈ sid.toList, c ∈ part := by
  induction ps generalizing parts with
  | nil =>
    cases h
    exact ⟨Nat.le_refl _, fun sid hsid => .inl hsid⟩
  | cons part ps ih =>
    rw [List.foldlM_cons] at h
    obtain ⟨next, hread, hrest⟩ := Option.bind_eq_some_iff.mp h
    obtain ⟨hweight, hsid⟩ := TagParts.read_spec hread
    obtain ⟨hweights, hsids⟩ := ih hrest
    refine ⟨by rw [List.map_cons, List.sum_cons]; omega, fun sid heq => ?_⟩
    rcases hsids sid heq with hnext | ⟨other, hother, hmem⟩
    · exact (hsid sid hnext).imp_right fun hmem => ⟨part, List.mem_cons_self, hmem⟩
    · exact .inr ⟨other, List.mem_cons_of_mem _ hother, hmem⟩

/-! ### Whole comments -/

variable (ctx : StrategyCtx) (cycleId : CycleId) (owner : Owner) (role : TagRole)

def commentParts : List (List Char) :=
  ["HYB".toList, "sid=".toList ++ ctx.strategyId.toList, "c=".toList ++ cycleId.text.toList,
    "o=".toList ++ (ownerCode owner).toList, "r=".toList ++ (roleCode role).toList]

theorem toList_buildComment : (buildComment ctx cycleId owner role).toList =
    ['|'].intercalate (commentParts ctx cycleId owner role) := by
  simp [buildComment, commentParts, List.intercalate]

theorem length_buildComment : (buildComment ctx cycleId owner role).toList.length =
    (⟨some ctx.strategyId, some cycleId.text, some owner, some role⟩ : TagParts).weight + 3 := by
  simp [buildComment, TagParts.weight]
  omega

/-- What a comment gives back is no longer than the comment, and of its characters. -/
theorem parseHybridTag_eq_some {comment : String} {tag : HybridTag}
    (h : parseHybridTag (some comment) = some tag) :
    (⟨some tag.sid, some tag.cycle, tag.owner, tag.role⟩ : TagParts).weight + 3 ≤
        comment.toList.length ∧
      ∀ c ∈ tag.sid.toList, c ∈ comment.toList ∧ c ≠ '|' := by
  rw [parseHybridTag] at h
  split_ifs at h with hforeign
  obtain ⟨rest, hrest⟩ : ∃ rest, comment.toList = "HYB".toList ++ '|' :: rest := by
    simp only [Bool.or_eq_true, not_or, Bool.not_eq_true, Bool.not_eq_false'] at hforeign
    obtain ⟨rest, hrest⟩ := List.isPrefixOf_iff_prefix.mp hforeign.2
    exact ⟨rest, hrest.symm⟩
  have hparts : (comment.toList.splitOn '|').drop 1 = rest.splitOn '|' := by
    rw [hrest, List.splitOn_append_cons_self_of_not_mem (by decide)]
    rfl
  obtain ⟨hmem, hsum⟩ := splitOn_parts '|' rest
  rw [hparts] at h
  split at h
  next sid cycle owner role hread =>
    obtain ⟨hweight, hsid⟩ := foldlM_read_spec hread
    cases h
    have hlength : comment.toList.length = rest.length + 4 := by rw [hrest]; rfl
    refine ⟨by rw [hsum] at hweight; simp [TagParts.weight] at hweight ⊢; omega, fun c hc => ?_⟩
    rcases hsid sid rfl with hnone | ⟨part, hpart, hchars⟩
    · cases hnone
    · obtain ⟨hin, hne⟩ := hmem part hpart c (hchars c hc)
      exact ⟨by simp [hrest, hin], hne⟩
  next => cases h

def isPlain (c : Char) : Bool := isAscii c && c ≠ '\n' && c ≠ '\r' && c ≠ '|'

theorem isPlain_of_isAsciiHexdigit (h : isAsciiHexdigit c = true) : isPlain c = true := by
  have hascii : isAscii c = true := by
    simp only [isAsciiHexdigit, Bool.or_eq_true, Bool.and_eq_true, decide_eq_true_eq,
      Char.le_def, UInt32.le_iff_toNat_le] at h
    refine decide_eq_true (Nat.lt_of_le_of_lt (?_ : c.val.toNat ≤ 'f'.val.toNat) (by decide))
    rcases h with (h | h) | h
    · exact h.2.trans (by decide)
    · exact h.2
    · exact h.2.trans (by decide)
  have hne : ∀ d : Char, isAsciiHexdigit d = false → c ≠ d := fun d hd heq => by
    rw [← heq, h] at hd
    cases hd
  simp [isPlain, hascii, hne '\n' (by decide), hne '\r' (by decide), hne '|' (by decide)]

theorem all_isPlain_commentParts (hsid : ctx.strategyId.toList.all isPlain = true) :
    ∀ part ∈ commentParts ctx cycleId owner role, part.all isPlain = true := by
  have hcycle : cycleId.text.toList.all isPlain = true :=
    List.all_eq_true.mpr fun c hc =>
      isPlain_of_isAsciiHexdigit (List.all_eq_true.mp cycleId.wellFormed.2 c hc)
  have howner : (ownerCode owner).toList.all isPlain = true := by cases owner <;> decide
  have hrole : (roleCode role).toList.all isPlain = true := by cases role <;> decide
  simp only [commentParts, List.forall_mem_cons, List.all_append, hsid, hcycle, howner, hrole]
  decide

/-- The tag comes back exactly if the strategy's name is plain and the comment is short enough. -/
theorem parseHybridTag_sanitizeComment :
    parseHybridTag (sanitizeComment (some (buildComment ctx cycleId owner role))) =
        some ⟨ctx.strategyId, cycleId.text, some owner, some role⟩ ↔
      ctx.strategyId.toList.all isPlain = true ∧
        (buildComment ctx cycleId owner role).toList.length ≤ 100 := by
  set raw := buildComment ctx cycleId owner role with hraw
  constructor
  · intro h
    unfold sanitizeComment at h
    dsimp only at h
    split_ifs at h with hblank
    · cases h
    obtain ⟨hweight, hsid⟩ := parseHybridTag_eq_some h
    rw [← length_buildComment, String.toList_ofList, ← hraw] at hweight
    -- the text is cut to a hundred characters, so the tag can be no longer
    refine ⟨List.all_eq_true.mpr fun c hc => ?_, hweight.trans (List.length_take_le _ _)⟩
    obtain ⟨hin, hbar⟩ := hsid c hc
    rw [String.toList_ofList] at hin
    have hkept := (List.mem_filter.mp (List.mem_of_mem_take hin)).2
    simp only [isPlain, hkept, Bool.true_and, hbar, decide_true, ne_eq, not_false_eq_true]
  · rintro ⟨hplain, hlength⟩
    have hparts := all_isPlain_commentParts ctx cycleId owner role hplain
    -- plain parts lose no character
    have hkept : raw.toList.filter (fun c => isAscii c && c ≠ '\n' && c ≠ '\r') = raw.toList := by
      refine List.filter_eq_self.mpr fun c hc => ?_
      rw [hraw, toList_buildComment] at hc
      rcases mem_intercalate hc with rfl | ⟨part, hpart, hmem⟩
      · rfl
      · have hc := List.all_eq_true.mp (hparts part hpart) c hmem
        simp only [isPlain, Bool.and_eq_true] at hc ⊢
        exact hc.1
    have hcomment : sanitizeComment (some raw) = some raw := by
      have hstart : isBlank raw = false := by
        rw [hraw, isBlank, toList_buildComment]
        rfl
      simp only [sanitizeComment, hkept, List.take_of_length_le hlength, String.ofList_toList,
        hstart, Bool.false_eq_true, if_false]
    have hascii : raw.toList.all isAscii = true := List.all_eq_true.mpr fun c hc => by
      rw [← hkept] at hc
      have hc := (List.mem_filter.mp hc).2
      simp only [Bool.and_eq_true] at hc
      exact hc.1.1
    -- no part holds a bar, so the comment is split where it was joined
    have hsplit : raw.toList.splitOn '|' = commentParts ctx cycleId owner role := by
      rw [hraw, toList_buildComment]
      refine List.splitOn_intercalate '|' (fun part hpart hbar => ?_) nofun
      exact absurd (List.all_eq_true.mp (hparts part hpart) '|' hbar) (by decide)
    rw [hcomment, parseHybridTag]
    have hstart : startsWith raw "HYB|" = true := by
      rw [hraw, startsWith, toList_buildComment]
      rfl
    rw [if_neg (by rw [hascii, hstart]; decide), hsplit]
    cases owner <;> cases role <;>
      simp [commentParts, TagParts.read, splitOnce, parseOwner, parseRole, ownerCode, roleCode]

/-- A name of 67 characters makes the comment of an entry too long by one. -/
theorem parseHybridTag_sanitizeComment_longName :
    parseHybridTag (sanitizeComment (some (buildComment
        { Sample.liveCtx 0 none with strategyId := String.ofList (List.replicate 67 'a') }
        (.ofTime 0 0) .meanReversion .entry))) ≠
      some ⟨String.ofList (List.replicate 67 'a'), (CycleId.ofTime 0 0).text, some .meanReversion,
        some .entry⟩ := by
  decide +kernel

end AlorRs.HybridIntraday
