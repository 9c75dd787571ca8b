import Switchyard.Unicode.Binary
import Switchyard.Unicode.Category

/-! Letters, numbers and unseen characters as of version 17.0. The classes of
patterns end with version 16.0; names and quoted text know the characters that
came after it as well. -/

namespace Switchyard.Unicode.Current

/-- The characters that came after version 16.0, by category. -/
def added : List Property := [
    ⟨["lu"], ["A7CE A7D2 A7D4 16EA0-16EB8"]⟩,
    ⟨["ll"], ["A7CF 16EBB-16ED3"]⟩,
    ⟨["lm"], ["A7F1 10EC5 11DD9 16FF2-16FF3 1E6FF"]⟩,
    ⟨["lo"],
      ["88F C5C CDC 10940-10959 10EC6-10EC7 11DB0-11DD8 11DDA-11DDB 187F8-187FF 18D09-18D1E",
       "18D80-18DF2 1E6C0-1E6DE 1E6E0-1E6E2 1E6E4-1E6E5 1E6E7-1E6ED 1E6F0-1E6F4 1E6FE",
       "2B73A-2B73F 2CEA2-2CEAD 323B0-33479"]⟩,
    ⟨["mn"],
      ["1ACF-1ADD 1AE0-1AEB 10EFA-10EFB 11B60 11B62-11B64 11B66 1E6E3 1E6E6 1E6EE-1E6EF",
       "1E6F5"]⟩,
    ⟨["mc"], ["11B61 11B65 11B67"]⟩,
    ⟨["nd"], ["11DE0-11DE9"]⟩,
    ⟨["nl"], ["16FF4-16FF6"]⟩,
    ⟨["po"], ["10ED0"]⟩,
    ⟨["sc"], ["20C1"]⟩,
    ⟨["sm"], ["1CEF0 1F8D0-1F8D8"]⟩,
    ⟨["so"],
      ["2B96 FBC3-FBD2 FD90-FD91 FDC8-FDCE 10ED1-10ED8 1CCFA-1CCFC 1CEBA-1CED0 1CEE0-1CEEF",
       "1F6D8 1F777-1F77A 1FA54-1FA57 1FA8A 1FA8E 1FAC8 1FACD 1FAEA 1FAEF 1FBFA"]⟩]

def addedVowels : Property :=
  ⟨["vowel"], ["10EFA-10EFB 11B60-11B67 1E6E3 1E6E6 1E6EE-1E6EF 1E6F5"]⟩

def ofCategories (names : List String) : CharSet :=
  .unionAll ([Category.table, added].flatMap fun table => names.filterMap (find? table))

def known (name : String) : CharSet := (find? Binary.table name).getD .empty

def letters : CharSet :=
  .unionAll [known "alphabetic", ofCategories ["lu", "ll", "lm", "lo", "nl"], addedVowels.set]

def numbers : CharSet := ofCategories ["nd", "nl", "no"]

def unassigned : CharSet :=
  (ofCategories ["cn"]).difference (.unionAll (added.map Property.set))

def extending : CharSet :=
  ((known "graphemeextend").difference (ofCategories ["lm"])).union (ofCategories ["mn"])

/-- What does not show on its own: controls, formats, separators, marks, and
characters that are ignored or are none. -/
def unseen : CharSet :=
  .unionAll [ofCategories ["cc", "cf", "co", "zl", "zp", "zs"], unassigned, extending,
    known "defaultignorablecodepoint"]

end Switchyard.Unicode.Current
