/-
The MD5 of a file and of the same bytes in memory.

Read in chunks of at most 256 bytes, none of which a `CC_LONG` cuts short,
the file gives the sum of all its bytes (`nnFileMD5_ok`). The one call of
`nn_md5` has its length cast, and sums up only as many bytes as are left of
the length modulo 2^32 (`nnMd5_ok`).
-/
import LearningDemo.NNAdd

namespace LearningDemo.NNAdd

open Imperative

variable {CC_MD5_CTX NSFileHandle : Type} {K : CommonCrypto CC_MD5_CTX} {MD5 : List UInt8 → Digest}
  {readDataOfLength : NSFileHandle → Nat → List UInt8 × NSFileHandle} {remaining : NSFileHandle → List UInt8}

/-- CommonCrypto computes this function: of the concatenation of all updates,
and of the first bytes of one buffer. -/
structure Computes (K : CommonCrypto CC_MD5_CTX) (MD5 : List UInt8 → Digest) : Prop where
  updates : ∀ chunks : List (List UInt8), (∀ chunk ∈ chunks, chunk.length < UInt32.size) →
    K.CC_MD5_Final (chunks.foldl (fun md5 chunk => K.CC_MD5_Update md5 chunk (UInt32.ofNat chunk.length))
      K.CC_MD5_Init) = MD5 chunks.flatten
  oneShot : ∀ (bytes : List UInt8) (n : UInt32), n.toNat ≤ bytes.length →
    K.CC_MD5 bytes n = MD5 (bytes.take n.toNat)

/-- `readDataOfLength:256` returns what is there behind the file pointer,
chunk by chunk, and nothing only at the end. -/
structure ReadsChunks (readDataOfLength : NSFileHandle → Nat → List UInt8 × NSFileHandle)
    (remaining : NSFileHandle → List UInt8) : Prop where
  consecutive : ∀ h, remaining h = (readDataOfLength h 256).1 ++ remaining (readDataOfLength h 256).2
  atMost : ∀ h, (readDataOfLength h 256).1.length ≤ 256
  atEnd : ∀ h, (readDataOfLength h 256).1 = [] → remaining h = []

/-- The two sums agree on the file the handle was opened for. -/
def SumsAgree (K : CommonCrypto CC_MD5_CTX) (readDataOfLength : NSFileHandle → Nat → List UInt8 × NSFileHandle)
    (handle : NSFileHandle) (content : List UInt8) : Prop :=
  Returns (fun fuel => nnFileMD5 K readDataOfLength fuel (some handle)) (· = nnMd5 K content)

/-! ## The file -/

/-- The chunks summed up so far and what remains make up the content; `k`
bounds the turns to come. -/
structure Summed (K : CommonCrypto CC_MD5_CTX) (remaining : NSFileHandle → List UInt8) (content : List UInt8)
    (k : Nat) (s : Reading CC_MD5_CTX NSFileHandle) : Prop where
  chunks : ∃ chunks : List (List UInt8), (∀ chunk ∈ chunks, chunk.length < UInt32.size) ∧
    s.md5 = chunks.foldl (fun md5 chunk => K.CC_MD5_Update md5 chunk (UInt32.ofNat chunk.length))
      K.CC_MD5_Init ∧
    chunks.flatten ++ remaining s.handle = content
  bound : s.done = false → k = (remaining s.handle).length + 1
  rest : s.done = true → remaining s.handle = []

theorem Summed.turn (hR : ReadsChunks readDataOfLength remaining) {content : List UInt8} {k : Nat}
    {s : Reading CC_MD5_CTX NSFileHandle} (h : Summed K remaining content k s) (hdone : s.done = false) :
    ∃ s' k', readTurn K readDataOfLength s = .ok s' ∧ Summed K remaining content k' s' ∧ k' < k := by
  obtain ⟨chunks, hsmall, hmd5, hcontent⟩ := h.chunks
  have hsplit := hR.consecutive s.handle
  have hmost := hR.atMost s.handle
  have hempty := hR.atEnd s.handle
  have hbound := h.bound hdone
  obtain ⟨⟨fileData, handle⟩, hread⟩ : ∃ r, readDataOfLength s.handle 256 = r := ⟨_, rfl⟩
  rw [hread] at hsplit hmost hempty
  simp only at hsplit hmost hempty
  have hmore : ∃ more : List (List UInt8), (∀ chunk ∈ more, chunk.length < UInt32.size) ∧
      K.CC_MD5_Update s.md5 fileData (UInt32.ofNat fileData.length) =
        more.foldl (fun md5 chunk => K.CC_MD5_Update md5 chunk (UInt32.ofNat chunk.length)) K.CC_MD5_Init ∧
      more.flatten ++ remaining handle = content := by
    refine ⟨chunks ++ [fileData], fun chunk hmem => ?_, ?_, ?_⟩
    · rcases List.mem_append.mp hmem with hmem | hmem
      · exact hsmall chunk hmem
      · rw [List.mem_singleton.mp hmem]
        exact Nat.lt_of_le_of_lt hmost (by decide)
    · rw [List.foldl_append, hmd5]
      rfl
    · rw [← hcontent, hsplit]
      simp
  by_cases hlen : fileData.length = 0
  · -- the empty chunk is the last one
    have hnil : remaining handle = [] := by
      have hend := hempty (List.length_eq_zero_iff.mp hlen)
      rw [hsplit] at hend
      exact (List.append_eq_nil_iff.mp hend).2
    refine ⟨⟨handle, _, true⟩, 0, ?_, ⟨hmore, nofun, fun _ => hnil⟩, by omega⟩
    simp [readTurn, hread, hlen]
  · refine ⟨⟨handle, _, false⟩, (remaining handle).length + 1, ?_, ⟨hmore, fun _ => rfl, nofun⟩, ?_⟩
    · simp [readTurn, hread, hlen, hdone]
    · rw [hbound, hsplit, List.length_append]
      omega

/-- **The file's sum is that of all its bytes.** -/
theorem nnFileMD5_ok (hK : Computes K MD5) (hR : ReadsChunks readDataOfLength remaining)
    (handle : NSFileHandle) : Returns (fun fuel => nnFileMD5 K readDataOfLength fuel (some handle))
      (· = hexString (MD5 (remaining handle))) := by
  have hstart : Summed K remaining (remaining handle) ((remaining handle).length + 1)
      ⟨handle, K.CC_MD5_Init, false⟩ := ⟨⟨[], nofun, rfl, rfl⟩, fun _ => rfl, nofun⟩
  have hstep : ∀ k s, Summed K remaining (remaining handle) k s → readMore s = .ok false ∨
      (readMore s = .ok true ∧ ∃ s' k', readTurn K readDataOfLength s = .ok s' ∧
        Summed K remaining (remaining handle) k' s' ∧ k' < k) := by
    intro k s hsum
    cases hdone : s.done with
    | true => exact .inl (by simp [readMore, hdone])
    | false => exact .inr ⟨by simp [readMore, hdone], hsum.turn hR hdone⟩
  refine ⟨(remaining handle).length + 2, fun fuel hfuel => ⟨_, ?_, rfl⟩⟩
  obtain ⟨s, hs, ⟨k, hsum⟩, hstop⟩ := whileLoop_returns hstep hstart hfuel
  have hdone : s.done = true := by simpa [readMore] using hstop
  obtain ⟨chunks, hsmall, hmd5, hcontent⟩ := hsum.chunks
  rw [hsum.rest hdone, List.append_nil] at hcontent
  refine bind_ok.mpr ⟨s, hs, ?_⟩
  rw [hmd5, hK.updates chunks hsmall, hcontent]
  rfl

/-! ## The bytes -/

/-- **The sum of the data is that of its first bytes**, as many as its length
modulo 2^32 says. -/
theorem nnMd5_ok (hK : Computes K MD5) (data : List UInt8) :
    nnMd5 K data = hexString (MD5 (data.take (data.length % UInt32.size))) := by
  have hn : (UInt32.ofNat data.length).toNat = data.length % UInt32.size := UInt32.toNat_ofNat'
  unfold nnMd5
  rw [hK.oneShot data _ (by rw [hn]; exact Nat.mod_le _ _), hn]

theorem hexString_inj {d e : Digest} : hexString d = hexString e ↔ d = e := by
  unfold hexString
  rw [Hex.string_inj, Vector.toList_inj]

/-- **The sums agree** on every content of less than 2^32 bytes, and on a
longer one only when MD5 does not tell it from its first bytes. -/
theorem sumsAgree_iff (hK : Computes K MD5) (hR : ReadsChunks readDataOfLength remaining)
    (handle : NSFileHandle) : SumsAgree K readDataOfLength handle (remaining handle) ↔
      (remaining handle).length < UInt32.size ∨
        MD5 ((remaining handle).take ((remaining handle).length % UInt32.size)) = MD5 (remaining handle) := by
  have hsame : SumsAgree K readDataOfLength handle (remaining handle) ↔
      MD5 ((remaining handle).take ((remaining handle).length % UInt32.size)) = MD5 (remaining handle) := by
    rw [SumsAgree, (nnFileMD5_ok hK hR handle).iff_of_eq, nnMd5_ok hK, hexString_inj]
    exact eq_comm
  rw [hsame]
  refine ⟨.inr, fun h => h.elim (fun hshort => ?_) id⟩
  rw [Nat.mod_eq_of_lt hshort, List.take_length]

/-! ## On concrete bytes -/

/-- The MD5 of no bytes, of `abc`, and of 2^32 bytes that are 0; other bytes
are not summed up here. -/
def sampleMD5 (bytes : List UInt8) : Digest :=
  if bytes = [] then
    #v[0xd4, 0x1d, 0x8c, 0xd9, 0x8f, 0x00, 0xb2, 0x04, 0xe9, 0x80, 0x09, 0x98, 0xec, 0xf8, 0x42, 0x7e]
  else if bytes = [0x61, 0x62, 0x63] then
    #v[0x90, 0x01, 0x50, 0x98, 0x3c, 0xd2, 0x4f, 0xb0, 0xd6, 0x96, 0x3f, 0x7d, 0x28, 0xe1, 0x7f, 0x72]
  else #v[0xc9, 0xa5, 0xa6, 0x87, 0x8d, 0x97, 0xb4, 0x8c, 0xc9, 0x65, 0xc1, 0xe4, 0x18, 0x59, 0xf0, 0x34]

/-- The context keeps all bytes. -/
def sampleCrypto : CommonCrypto (List UInt8) where
  CC_MD5_Init := []
  CC_MD5_Update md5 bytes n := md5 ++ bytes.take n.toNat
  CC_MD5_Final := sampleMD5
  CC_MD5 bytes n := sampleMD5 (bytes.take n.toNat)

/-- A file handle that is the bytes behind its pointer. -/
def sampleRead (handle : List UInt8) (n : Nat) : List UInt8 × List UInt8 := (handle.take n, handle.drop n)

theorem sampleCrypto_computes : Computes sampleCrypto sampleMD5 where
  updates chunks hsmall := by
    have hall : ∀ (chunks : List (List UInt8)) (md5 : List UInt8),
        (∀ chunk ∈ chunks, chunk.length < UInt32.size) →
        chunks.foldl (fun md5 chunk => sampleCrypto.CC_MD5_Update md5 chunk (UInt32.ofNat chunk.length)) md5 =
          md5 ++ chunks.flatten := by
      intro chunks
      induction chunks with
      | nil => intro md5 _; simp
      | cons chunk chunks ih =>
        intro md5 hsmall
        have hlen : (UInt32.ofNat chunk.length).toNat = chunk.length :=
          UInt32.toNat_ofNat'.trans (Nat.mod_eq_of_lt (hsmall chunk (by simp)))
        rw [List.foldl_cons, ih _ fun c hc => hsmall c (List.mem_cons_of_mem chunk hc)]
        simp [sampleCrypto, hlen]
    exact congrArg sampleMD5 (hall chunks [] hsmall)
  oneShot _ _ _ := rfl

theorem sampleRead_reads : ReadsChunks sampleRead id where
  consecutive h := (List.take_append_drop 256 h).symm
  atMost h := List.length_take_le 256 h
  atEnd h hnil := by
    rcases List.take_eq_nil_iff.mp hnil with h0 | hnil
    · cases h0
    · exact hnil

theorem sumsAgree_abc : SumsAgree sampleCrypto sampleRead [0x61, 0x62, 0x63] [0x61, 0x62, 0x63] ↔
    [0x61, 0x62, 0x63].length < UInt32.size ∨
      sampleMD5 ([0x61, 0x62, 0x63].take ([0x61, 0x62, 0x63].length % UInt32.size)) =
        sampleMD5 [0x61, 0x62, 0x63] :=
  sumsAgree_iff sampleCrypto_computes sampleRead_reads [0x61, 0x62, 0x63]

/-- Of 4 GiB of zeros in memory no byte is summed up. -/
theorem nnMd5_sums_nothing :
    let content := List.replicate UInt32.size (0 : UInt8)
    Returns (fun fuel => nnFileMD5 sampleCrypto sampleRead fuel (some content))
      (· = "c9a5a6878d97b48cc965c1e41859f034") ∧
    nnMd5 sampleCrypto content = "d41d8cd98f00b204e9800998ecf8427e" ∧
    ¬ SumsAgree sampleCrypto sampleRead content content := by
  intro content
  have hlen : content.length = UInt32.size := List.length_replicate
  have hfile : hexString (sampleMD5 content) = "c9a5a6878d97b48cc965c1e41859f034" := by
    have hnil : content ≠ [] := fun h => by simp [h] at hlen
    have habc : content ≠ [0x61, 0x62, 0x63] := fun h => by
      rw [h] at hlen
      exact absurd hlen (by decide)
    rw [sampleMD5, if_neg hnil, if_neg habc]
    decide
  have hdata : nnMd5 sampleCrypto content = "d41d8cd98f00b204e9800998ecf8427e" := by
    rw [nnMd5_ok sampleCrypto_computes, hlen, Nat.mod_self, List.take_zero]
    decide
  have hret : Returns (fun fuel => nnFileMD5 sampleCrypto sampleRead fuel (some content))
      (· = "c9a5a6878d97b48cc965c1e41859f034") := by
    rw [← hfile]
    exact nnFileMD5_ok sampleCrypto_computes sampleRead_reads content
  refine ⟨hret, hdata, fun hagree => ?_⟩
  rw [SumsAgree, hret.iff_of_eq, hdata] at hagree
  exact absurd hagree (by decide)

end LearningDemo.NNAdd
