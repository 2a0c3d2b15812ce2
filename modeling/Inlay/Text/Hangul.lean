/-!
# Hangul syllables

A syllable is made of a leading consonant, a vowel and perhaps a trailing consonant, and syllables
are numbered in the order of their letters.
-/

namespace Inlay.Text.Hangul

/-- The leading consonants. -/
def leads : List Char := "ㄱㄲㄴㄷㄸㄹㅁㅂㅃㅅㅆㅇㅈㅉㅊㅋㅌㅍㅎ".toList

/-- The vowels. -/
def vowels : List Char := "ㅏㅐㅑㅒㅓㅔㅕㅖㅗㅘㅙㅚㅛㅜㅝㅞㅟㅠㅡㅢㅣ".toList

/-- The trailing consonants. -/
def tails : List Char := "ㄱㄲㄳㄴㄵㄶㄷㄹㄺㄻㄼㄽㄾㄿㅀㅁㅂㅄㅅㅆㅇㅈㅊㅋㅌㅍㅎ".toList

/-- The syllable of letters with these places; the place of a trailing consonant counts from one. -/
def syllable (lead vowel tail : Nat) : Char :=
  Char.ofNat (0xAC00 + (lead * vowels.length + vowel) * (tails.length + 1) + tail)

/-- The syllable of letters. -/
def syllable? (lead vowel : Char) (tail : Option Char) : Option Char := do
  let lead ← leads.idxOf? lead
  let vowel ← vowels.idxOf? vowel
  match tail with
  | none => some (syllable lead vowel 0)
  | some tail => (tails.idxOf? tail).map fun tail => syllable lead vowel (tail + 1)

end Inlay.Text.Hangul
