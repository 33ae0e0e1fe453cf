import DeviceAlerts.Text.Lowercase

/-! The upper case of a character. The capital of a small letter is as a rule the first of those
whose small letter it is; the letters with a capital of another kind come in runs of their own. A
character whose capital is several characters has the first of them here. -/

namespace DeviceAlerts.Text

/-- Letters with a capital that does not lead back to them. -/
def capitalRuns : Array CaseRun :=
  #[
    ⟨0xB5, 0xB5, 1, 743⟩, ⟨0xDF, 0xDF, 1, -140⟩, ⟨0x131, 0x131, 1, -232⟩, ⟨0x149, 0x149, 1, 371⟩,
    ⟨0x17F, 0x17F, 1, -300⟩, ⟨0x1C5, 0x1C5, 1, -1⟩, ⟨0x1C8, 0x1C8, 1, -1⟩, ⟨0x1CB, 0x1CB, 1, -1⟩,
    ⟨0x1F0, 0x1F0, 1, -422⟩, ⟨0x1F2, 0x1F2, 1, -1⟩, ⟨0x345, 0x345, 1, 84⟩, ⟨0x390, 0x390, 1, 9⟩,
    ⟨0x3B0, 0x3B0, 1, -11⟩, ⟨0x3C2, 0x3C2, 1, -31⟩, ⟨0x3D0, 0x3D0, 1, -62⟩, ⟨0x3D1, 0x3D1, 1, -57⟩,
    ⟨0x3D5, 0x3D5, 1, -47⟩, ⟨0x3D6, 0x3D6, 1, -54⟩, ⟨0x3F0, 0x3F0, 1, -86⟩, ⟨0x3F1, 0x3F1, 1, -80⟩,
    ⟨0x3F5, 0x3F5, 1, -96⟩, ⟨0x587, 0x587, 1, -82⟩, ⟨0x1C80, 0x1C80, 1, -6254⟩,
    ⟨0x1C81, 0x1C81, 1, -6253⟩, ⟨0x1C82, 0x1C82, 1, -6244⟩, ⟨0x1C83, 0x1C84, 1, -6242⟩,
    ⟨0x1C85, 0x1C85, 1, -6243⟩, ⟨0x1C86, 0x1C86, 1, -6236⟩, ⟨0x1C87, 0x1C87, 1, -6181⟩,
    ⟨0x1C88, 0x1C88, 1, 35266⟩, ⟨0x1E96, 0x1E96, 1, -7758⟩, ⟨0x1E97, 0x1E97, 1, -7747⟩,
    ⟨0x1E98, 0x1E98, 1, -7745⟩, ⟨0x1E99, 0x1E99, 1, -7744⟩, ⟨0x1E9A, 0x1E9A, 1, -7769⟩,
    ⟨0x1E9B, 0x1E9B, 1, -59⟩, ⟨0x1F50, 0x1F50, 1, -7083⟩, ⟨0x1F52, 0x1F52, 1, -7085⟩,
    ⟨0x1F54, 0x1F54, 1, -7087⟩, ⟨0x1F56, 0x1F56, 1, -7089⟩, ⟨0x1F80, 0x1F87, 1, -120⟩,
    ⟨0x1F88, 0x1F8F, 1, -128⟩, ⟨0x1F90, 0x1F97, 1, -104⟩, ⟨0x1F98, 0x1F9F, 1, -112⟩,
    ⟨0x1FA0, 0x1FA7, 1, -56⟩, ⟨0x1FA8, 0x1FAF, 1, -64⟩, ⟨0x1FB2, 0x1FB2, 1, 8⟩,
    ⟨0x1FB3, 0x1FB3, 1, -7202⟩, ⟨0x1FB4, 0x1FB4, 1, -7214⟩, ⟨0x1FB6, 0x1FB6, 1, -7205⟩,
    ⟨0x1FB7, 0x1FB7, 1, -7206⟩, ⟨0x1FBC, 0x1FBC, 1, -7211⟩, ⟨0x1FBE, 0x1FBE, 1, -7205⟩,
    ⟨0x1FC2, 0x1FC2, 1, 8⟩, ⟨0x1FC3, 0x1FC3, 1, -7212⟩, ⟨0x1FC4, 0x1FC4, 1, -7227⟩,
    ⟨0x1FC6, 0x1FC6, 1, -7215⟩, ⟨0x1FC7, 0x1FC7, 1, -7216⟩, ⟨0x1FCC, 0x1FCC, 1, -7221⟩,
    ⟨0x1FD2, 0x1FD2, 1, -7225⟩, ⟨0x1FD3, 0x1FD3, 1, -7226⟩, ⟨0x1FD6, 0x1FD6, 1, -7229⟩,
    ⟨0x1FD7, 0x1FD7, 1, -7230⟩, ⟨0x1FE2, 0x1FE2, 1, -7229⟩, ⟨0x1FE3, 0x1FE3, 1, -7230⟩,
    ⟨0x1FE4, 0x1FE4, 1, -7235⟩, ⟨0x1FE6, 0x1FE6, 1, -7233⟩, ⟨0x1FE7, 0x1FE7, 1, -7234⟩,
    ⟨0x1FF2, 0x1FF2, 1, 8⟩, ⟨0x1FF3, 0x1FF3, 1, -7242⟩, ⟨0x1FF4, 0x1FF4, 1, -7269⟩,
    ⟨0x1FF6, 0x1FF6, 1, -7245⟩, ⟨0x1FF7, 0x1FF7, 1, -7246⟩, ⟨0x1FFC, 0x1FFC, 1, -7251⟩,
    ⟨0xFB00, 0xFB00, 1, -64186⟩, ⟨0xFB01, 0xFB01, 1, -64187⟩, ⟨0xFB02, 0xFB02, 1, -64188⟩,
    ⟨0xFB03, 0xFB03, 1, -64189⟩, ⟨0xFB04, 0xFB04, 1, -64190⟩, ⟨0xFB05, 0xFB05, 1, -64178⟩,
    ⟨0xFB06, 0xFB06, 1, -64179⟩, ⟨0xFB13, 0xFB13, 1, -62927⟩, ⟨0xFB14, 0xFB14, 1, -62928⟩,
    ⟨0xFB15, 0xFB15, 1, -62929⟩, ⟨0xFB16, 0xFB16, 1, -62920⟩, ⟨0xFB17, 0xFB17, 1, -62931⟩]

def upperCode (n : Nat) : Nat :=
  if n < 0x80 then (if 0x61 ≤ n && n ≤ 0x7A then n - 32 else n)
  else match capitalRuns.find? fun r => r.contains n with
    | some r => r.image n
    | none => if lowerCode n == n then (capitalsOf n).headD n else n

/-! ### Letters with another case -/

/-- Whether a character of a run lies between two bounds. -/
def CaseRun.meets (r : CaseRun) (low high : Nat) : Bool :=
  let start := r.first + (low - r.first + r.step - 1) / r.step * r.step
  start ≤ r.last && start ≤ high

/-- The small letters of a run of capital letters. -/
def CaseRun.images (r : CaseRun) : CaseRun :=
  ⟨r.image r.first, r.image r.last, r.step, -r.distance⟩

/-- Whether a letter with another case lies between two bounds. -/
def casedBetween (low high : Nat) : Bool :=
  caseRuns.any (fun r => r.meets low high || r.images.meets low high) ||
    capitalRuns.any fun r => r.meets low high

end DeviceAlerts.Text
