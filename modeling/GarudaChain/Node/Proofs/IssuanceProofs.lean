import GarudaChain.Node.Issuance
import GarudaChain.Node.Proofs.AssetProofs

/-!
# The ids of assets
-/

namespace GarudaChain

open Int64Lib Result

namespace IssueRequest

/-- What `ComputeAssetId` hashes. -/
def hashedText (request : IssueRequest) : Bytes := request.name ++ request.symbol ++ request.address

def SameAsset (r₁ r₂ : IssueRequest) : Prop :=
  r₁.name = r₂.name ∧ r₁.symbol = r₂.symbol ∧ r₁.address = r₂.address

def NoCollision (crypto : Crypto) (r₁ r₂ : IssueRequest) : Prop :=
  r₁.assetId crypto = r₂.assetId crypto → r₁.hashedText = r₂.hashedText

instance (r₁ r₂ : IssueRequest) : Decidable (SameAsset r₁ r₂) :=
  inferInstanceAs (Decidable (_ ∧ _))

instance (crypto : Crypto) (r₁ r₂ : IssueRequest) : Decidable (NoCollision crypto r₁ r₂) :=
  inferInstanceAs (Decidable (_ → _))

variable {r₁ r₂ : IssueRequest}

/-- The first text goes on for the second: a name that goes on where the other asset's symbol begins, or
    with one name a symbol that goes on where the other issuer begins. -/
def Shifted (r₁ r₂ : IssueRequest) : Prop :=
  (∃ w ≠ [], r₂.name = r₁.name ++ w ∧
    r₁.symbol ++ r₁.address = w ++ (r₂.symbol ++ r₂.address)) ∨
  (r₁.name = r₂.name ∧ ∃ w ≠ [], r₂.symbol = r₁.symbol ++ w ∧
    r₁.address = w ++ r₂.address)

theorem Shifted.hashedText_eq (h : r₁.Shifted r₂) :
    r₁.hashedText = r₂.hashedText ∧ ¬ r₁.SameAsset r₂ := by
  rcases h with ⟨w, hw, hname, hrest⟩ | ⟨hname, w, hw, hsymbol, hissuer⟩
  · constructor
    · rw [hashedText, hashedText, List.append_assoc, hrest, hname]
      simp
    · rintro ⟨hsame, -⟩
      rw [hname] at hsame
      exact hw (List.append_right_eq_self.mp hsame.symm)
  · constructor
    · rw [hashedText, hashedText, hname, hsymbol, hissuer]
      simp
    · rintro ⟨-, hsame, -⟩
      rw [hsymbol] at hsame
      exact hw (List.append_right_eq_self.mp hsame.symm)

/-- With one name, the symbols are the same or one of them goes on. -/
theorem sameAsset_or_shifted_of_name (hname : r₁.name = r₂.name)
    (hrest : r₁.symbol ++ r₁.address = r₂.symbol ++ r₂.address) :
    r₁.SameAsset r₂ ∨ r₁.Shifted r₂ ∨ r₂.Shifted r₁ := by
  rw [List.append_eq_append_iff] at hrest
  rcases hrest with ⟨w, hsymbol, haddress⟩ | ⟨w, hsymbol, haddress⟩
  · rcases eq_or_ne w [] with rfl | hw
    · exact .inl ⟨hname, by simpa using hsymbol.symm, by simpa using haddress⟩
    · exact .inr (.inl (.inr ⟨hname, w, hw, hsymbol, haddress⟩))
  · rcases eq_or_ne w [] with rfl | hw
    · exact .inl ⟨hname, by simpa using hsymbol, by simpa using haddress.symm⟩
    · exact .inr (.inr (.inr ⟨hname.symm, w, hw, hsymbol, haddress⟩))

theorem sameAsset_or_shifted (h : r₁.hashedText = r₂.hashedText) :
    r₁.SameAsset r₂ ∨ r₁.Shifted r₂ ∨ r₂.Shifted r₁ := by
  rw [hashedText, hashedText, List.append_assoc, List.append_assoc, List.append_eq_append_iff] at h
  rcases h with ⟨w, hname, hrest⟩ | ⟨w, hname, hrest⟩
  · rcases eq_or_ne w [] with rfl | hw
    · exact sameAsset_or_shifted_of_name (by simpa using hname.symm) (by simpa using hrest)
    · exact .inr (.inl (.inl ⟨w, hw, hname, hrest⟩))
  · rcases eq_or_ne w [] with rfl | hw
    · exact sameAsset_or_shifted_of_name (by simpa using hname) (by simpa using hrest.symm)
    · exact .inr (.inr (.inl ⟨w, hw, hname, hrest⟩))

end IssueRequest

section Issue

variable {env : NodeEnv} {db db' : AssetDB} {request : IssueRequest} {result : IssueResult}

theorem issueasset_registers (h : issueasset env db request = .ok (db', result)) :
    db.readAsset (request.assetId env.crypto) = none ∧
      result.assetId = request.assetId env.crypto ∧
      ∀ assetId, assetId ≠ request.assetId env.crypto →
        db'.readAsset assetId = db.readAsset assetId := by
  simp only [issueasset, bind_ok_iff, throwIf_eq_ok, Except.ok.injEq, Prod.mk.injEq] at h
  obtain ⟨supply, -, _, -, _, -, _, -, _, -, _, -, _, hfree, _, -, rfl, rfl⟩ := h
  refine ⟨by simpa using hfree, rfl, fun assetId hne => ?_⟩
  rw [AssetDB.readAsset_writeBalance, AssetDB.readAsset_writeAsset, if_neg hne]

theorem issueasset_of_free {db₁ : AssetDB} (h : issueasset env db request = .ok (db', result))
    (hfree : db₁.readAsset (request.assetId env.crypto) = none) :
    ∃ db₁', issueasset env db₁ request = .ok (db₁', result) := by
  simp only [issueasset, bind_ok_iff, throwIf_eq_ok, Except.ok.injEq, Prod.mk.injEq] at h ⊢
  obtain ⟨supply, hsupply, _, hmode, _, hsymbol, _, hname, _, hpos, _, hvalid, _, -, _, hauth, -,
    hresult⟩ := h
  exact ⟨_, supply, hsupply, (), hmode, (), hsymbol, (), hname, (), hpos, (), hvalid, (),
    by rw [hfree]; rfl, (), hauth, rfl, hresult⟩

/-- Two requests that `issueasset` accepts on one database: the text hashed for them tells their assets
    apart exactly if neither is the other one with a boundary between its fields shifted; and assets with
    different texts can both be issued. -/
theorem issueasset_tellsApart {r₁ r₂ : IssueRequest} {db₁ db₂ : AssetDB} {out₁ out₂ : IssueResult}
    (h₁ : issueasset env db r₁ = .ok (db₁, out₁)) (h₂ : issueasset env db r₂ = .ok (db₂, out₂)) :
    ((¬ r₁.SameAsset r₂ → r₁.hashedText ≠ r₂.hashedText) ↔ ¬ r₁.Shifted r₂ ∧ ¬ r₂.Shifted r₁) ∧
    (r₁.hashedText ≠ r₂.hashedText → IssueRequest.NoCollision env.crypto r₁ r₂ →
      ∃ db₁₂, issueasset env db₁ r₂ = .ok (db₁₂, out₂) ∧
        db₁₂.readAsset out₁.assetId = db₁.readAsset out₁.assetId) := by
  constructor
  · constructor
    · intro happart
      refine ⟨fun h => happart h.hashedText_eq.2 h.hashedText_eq.1, fun h => ?_⟩
      obtain ⟨htext, hdiffer⟩ := h.hashedText_eq
      exact happart (fun hsame => hdiffer ⟨hsame.1.symm, hsame.2.1.symm, hsame.2.2.symm⟩) htext.symm
    · rintro ⟨hleft, hright⟩ hdiffer htext
      rcases IssueRequest.sameAsset_or_shifted htext with hsame | h | h
      · exact hdiffer hsame
      · exact hleft h
      · exact hright h
  · intro htext hcollision
    have hid : r₂.assetId env.crypto ≠ r₁.assetId env.crypto := fun h => htext (hcollision h.symm)
    obtain ⟨-, hout₁, hframe⟩ := issueasset_registers h₁
    obtain ⟨hfree, -, -⟩ := issueasset_registers h₂
    obtain ⟨db₁₂, hsecond⟩ := issueasset_of_free h₂ ((hframe _ hid).trans hfree)
    obtain ⟨-, -, hkept⟩ := issueasset_registers hsecond
    exact ⟨db₁₂, hsecond, hkept _ (hout₁ ▸ hid.symm)⟩

end Issue

/-- A request of the seller for ten units. -/
def issueOf (name symbol : Bytes) : IssueRequest := ⟨symbol, name, [], 10, sampleSeller, none⟩

/-- `Rupiah`, `IDR`. -/
def rupiahIssue : IssueRequest := issueOf [82, 117, 112, 105, 97, 104] [73, 68, 82]

/-- `Dollar`, `USD`. -/
def dollarIssue : IssueRequest := issueOf [68, 111, 108, 108, 97, 114] [85, 83, 68]

def shortNameIssue : IssueRequest := issueOf [65] [66, 67]

def longNameIssue : IssueRequest := issueOf [65, 66] [67]

def issuanceEnv : NodeEnv :=
  { sampleNodeEnv with
    crypto := { sampleNodeEnv.crypto with
      sha256 := fun bytes =>
        uint256Bytes
          (if bytes = rupiahIssue.hashedText then
            0xf170e12b910847614c251de5a2e66235681d405b6c02ed6534e10cf2b57f5dac
          else if bytes = dollarIssue.hashedText then
            0x8d971ec431f4e2b135056c8bab2faa4da82725c2be4489d2a79e21752a3c35d2
          else if bytes = shortNameIssue.hashedText then
            0x541530fe2aeac3e247c9d1c6276a9a50407b5bc4d5f92105e44a713b17de8815
          else 0) } }

theorem issueasset_tellsApart_sample :
    rupiahIssue.hashedText ≠ dollarIssue.hashedText ∧
      Returns (issueasset issuanceEnv .empty rupiahIssue) fun first =>
        Returns (issueasset issuanceEnv first.1 dollarIssue) fun both =>
          both.1.readAsset first.2.assetId = first.1.readAsset first.2.assetId := by
  have hvalues : (issueasset issuanceEnv .empty rupiahIssue).isOk ∧
      (issueasset issuanceEnv .empty dollarIssue).isOk ∧
      IssueRequest.NoCollision issuanceEnv.crypto rupiahIssue dollarIssue := by
    decide +kernel
  obtain ⟨hok₁, hok₂, hcollision⟩ := hvalues
  cases h₁ : issueasset issuanceEnv .empty rupiahIssue with
  | error err => rw [h₁] at hok₁; cases hok₁
  | ok first =>
    cases h₂ : issueasset issuanceEnv .empty dollarIssue with
    | error err => rw [h₂] at hok₂; cases hok₂
    | ok second =>
      obtain ⟨hiff, hboth⟩ := issueasset_tellsApart h₁ h₂
      have hapart : ¬ rupiahIssue.Shifted dollarIssue ∧ ¬ dollarIssue.Shifted rupiahIssue := by
        have htext : rupiahIssue.hashedText ≠ dollarIssue.hashedText := by decide
        exact ⟨fun h => htext h.hashedText_eq.1, fun h => htext h.hashedText_eq.1.symm⟩
      have htext := hiff.mpr hapart (by decide)
      obtain ⟨db, hsecond, hkept⟩ := hboth htext hcollision
      exact ⟨htext, first, rfl, _, hsecond, hkept⟩

/-- `A` with the symbol `BC` and `AB` with the symbol `C` hash one text. -/
theorem issueasset_blocked :
    ¬ shortNameIssue.SameAsset longNameIssue ∧
      shortNameIssue.hashedText = longNameIssue.hashedText ∧
      (issueasset issuanceEnv .empty longNameIssue).isOk ∧
      Returns (issueasset issuanceEnv .empty shortNameIssue) fun first =>
        (issueasset issuanceEnv first.1 longNameIssue).map Prod.snd =
          .error ⟨.invalidParameter, "Asset sudah ada"⟩ := by
  decide +kernel

end GarudaChain
