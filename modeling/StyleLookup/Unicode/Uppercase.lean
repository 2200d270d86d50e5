import StyleLookup.Unicode.Scalars
import StyleLookup.Text.Pieces

/-!
# Full upper case

The upper case of a character is a list of characters: `ß` becomes `SS`. Letters of ASCII have a
rule of their own; a table holds the other characters that change.
-/

namespace StyleLookup.Unicode

open StyleLookup.Text

/-- Reads a run of mappings: intervals, then `<` or `>` and the distance down or up. -/
def shiftsOfWord (word : List Char) : List (Interval × (Nat → Nat)) :=
  let (range, rest) := word.span (fun c => c != '<' && c != '>')
  let distance := Hexadecimal.value (rest.drop 1)
  let shift := if rest.head? == some '<' then (· - distance) else (· + distance)
  (intervalsOfWord range).map (·, shift)

/-- Reads a character and the several characters of its upper case. -/
def expansionOfWord (word : List Char) : Nat × List Nat :=
  let (key, rest) := word.span (· != '=')
  (Hexadecimal.value key, (cutAt ',' (rest.drop 1)).map Hexadecimal.value)

/-- Characters outside ASCII whose upper case is one other character. -/
def uppercaseShifts : List (Interval × (Nat → Nat)) :=
  (tableWords
    "b5>2e7 e0-f6<20 f8-fe<20 ff>79 101-12f/2<1 131<e8 133-137/2<1 13a-148/2<1 14b-177/2<1
   17a-17e/2<1 17f<12c 180>c3 183-185/2<1 188<1 18c<1 192<1 195>61 199<1 19a>a3 19b>a641 19e>82
   1a1-1a5/2<1 1a8<1 1ad<1 1b0<1 1b4-1b6/2<1 1b9<1 1bd<1 1bf>38 1c5<1 1c6<2 1c8<1 1c9<2 1cb<1
   1cc<2 1ce-1dc/2<1 1dd<4f 1df-1ef/2<1 1f2<1 1f3<2 1f5<1 1f9-21f/2<1 223-233/2<1 23c<1
   23f-240>2a3f 242<1 247-24f/2<1 250>2a1f 251>2a1c 252>2a1e 253<d2 254<ce 256-257<cd 259<ca
   25b<cb 25c>a54f 260<cd 261>a54b 263<cf 264>a567 265>a528 266>a544 268<d1 269<d3 26a>a544
   26b>29f7 26c>a541 26f<d3 271>29fd 272<d5 275<d6 27d>29e7 280<da 282>a543 283<da 287>a52a 288<da
   289<45 28a-28b<d9 28c<47 292<db 29d>a515 29e>a512 345>54 371-373/2<1 377<1 37b-37d>82 3ac<26
   3ad-3af<25 3b1-3c1<20 3c2<1f 3c3-3cb<20 3cc<40 3cd-3ce<3f 3d0<3e 3d1<39 3d5<2f 3d6<36 3d7<8
   3d9-3ef/2<1 3f0<56 3f1<50 3f2>7 3f3<74 3f5<60 3f8<1 3fb<1 430-44f<20 450-45f<50 461-481/2<1
   48b-4bf/2<1 4c2-4ce/2<1 4cf<f 4d1-52f/2<1 561-586<30 10d0-10fa>bc0 10fd-10ff>bc0 13f8-13fd<8
   1c80<186e 1c81<186d 1c82<1864 1c83-1c84<1862 1c85<1863 1c86<185c 1c87<1825 1c88>89c2 1c8a<1
   1d79>8a04 1d7d>ee6 1d8e>8a38 1e01-1e95/2<1 1e9b<3b 1ea1-1eff/2<1 1f00-1f07>8 1f10-1f15>8
   1f20-1f27>8 1f30-1f37>8 1f40-1f45>8 1f51-1f57/2>8 1f60-1f67>8 1f70-1f71>4a 1f72-1f75>56
   1f76-1f77>64 1f78-1f79>80 1f7a-1f7b>70 1f7c-1f7d>7e 1fb0-1fb1>8 1fbe<1c25 1fd0-1fd1>8
   1fe0-1fe1>8 1fe5>7 214e<1c 2170-217f<10 2184<1 24d0-24e9<1a 2c30-2c5f<30 2c61<1 2c65<2a2b
   2c66<2a28 2c68-2c6c/2<1 2c73<1 2c76<1 2c81-2ce3/2<1 2cec-2cee/2<1 2cf3<1 2d00-2d25<1c60
   2d27<1c60 2d2d<1c60 a641-a66d/2<1 a681-a69b/2<1 a723-a72f/2<1 a733-a76f/2<1 a77a-a77c/2<1
   a77f-a787/2<1 a78c<1 a791-a793/2<1 a794>30 a797-a7a9/2<1 a7b5-a7c3/2<1 a7c8-a7ca/2<1
   a7cd-a7db/2<1 a7f6<1 ab53<3a0 ab70-abbf<97d0 ff41-ff5a<20 10428-1044f<28 104d8-104fb<28
   10597-105bb/2<27 10598-105a0/2<27 105a4-105b0/2<27 105b4-105b8/2<27 105bc<27 10cc0-10cf2<40
   10d70-10d85<20 118c0-118df<20 16e60-16e7f<20 16ebb-16ed3<1b 1e922-1e943<22").flatMap shiftsOfWord

/-- Characters whose upper case is several characters. -/
def uppercaseExpansions : List (Nat × List Nat) :=
  (tableWords
    "df=53,53 149=2bc,4e 1f0=4a,30c 390=399,308,301 3b0=3a5,308,301 587=535,552 1e96=48,331
   1e97=54,308 1e98=57,30a 1e99=59,30a 1e9a=41,2be 1f50=3a5,313 1f52=3a5,313,300 1f54=3a5,313,301
   1f56=3a5,313,342 1f80=1f08,399 1f81=1f09,399 1f82=1f0a,399 1f83=1f0b,399 1f84=1f0c,399
   1f85=1f0d,399 1f86=1f0e,399 1f87=1f0f,399 1f88=1f08,399 1f89=1f09,399 1f8a=1f0a,399
   1f8b=1f0b,399 1f8c=1f0c,399 1f8d=1f0d,399 1f8e=1f0e,399 1f8f=1f0f,399 1f90=1f28,399
   1f91=1f29,399 1f92=1f2a,399 1f93=1f2b,399 1f94=1f2c,399 1f95=1f2d,399 1f96=1f2e,399
   1f97=1f2f,399 1f98=1f28,399 1f99=1f29,399 1f9a=1f2a,399 1f9b=1f2b,399 1f9c=1f2c,399
   1f9d=1f2d,399 1f9e=1f2e,399 1f9f=1f2f,399 1fa0=1f68,399 1fa1=1f69,399 1fa2=1f6a,399
   1fa3=1f6b,399 1fa4=1f6c,399 1fa5=1f6d,399 1fa6=1f6e,399 1fa7=1f6f,399 1fa8=1f68,399
   1fa9=1f69,399 1faa=1f6a,399 1fab=1f6b,399 1fac=1f6c,399 1fad=1f6d,399 1fae=1f6e,399
   1faf=1f6f,399 1fb2=1fba,399 1fb3=391,399 1fb4=386,399 1fb6=391,342 1fb7=391,342,399
   1fbc=391,399 1fc2=1fca,399 1fc3=397,399 1fc4=389,399 1fc6=397,342 1fc7=397,342,399 1fcc=397,399
   1fd2=399,308,300 1fd3=399,308,301 1fd6=399,342 1fd7=399,308,342 1fe2=3a5,308,300
   1fe3=3a5,308,301 1fe4=3a1,313 1fe6=3a5,342 1fe7=3a5,308,342 1ff2=1ffa,399 1ff3=3a9,399
   1ff4=38f,399 1ff6=3a9,342 1ff7=3a9,342,399 1ffc=3a9,399 fb00=46,46 fb01=46,49 fb02=46,4c
   fb03=46,46,49 fb04=46,46,4c fb05=53,54 fb06=53,54 fb13=544,546 fb14=544,535 fb15=544,53b
   fb16=54e,546 fb17=544,53d").map expansionOfWord

/-- The full upper case of a character; a character without one stands for itself. -/
def upper (c : Char) : List Char :=
  if c.toNat < 128 then
    if 'a' ≤ c ∧ c ≤ 'z' then [Char.ofNat (c.toNat - 32)] else [c]
  else
    match uppercaseExpansions.find? (fun e => e.1 == c.toNat) with
    | some e => e.2.map Char.ofNat
    | none =>
        match uppercaseShifts.find? (fun s => s.1.lo ≤ c.toNat && c.toNat ≤ s.1.hi) with
        | some s => [Char.ofNat (s.2 c.toNat)]
        | none => [c]

end StyleLookup.Unicode
