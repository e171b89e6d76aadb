/-! Letters that make one character with an acute accent after them. -/

namespace StanzaDelivery.Text

/-- Each letter with the character that it makes. -/
def acuteLetters : List (Char × Char) :=
  [('A', 'Á'), ('C', 'Ć'), ('E', 'É'), ('G', 'Ǵ'), ('I', 'Í'), ('K', 'Ḱ'), ('L', 'Ĺ'),
   ('M', 'Ḿ'), ('N', 'Ń'), ('O', 'Ó'), ('P', 'Ṕ'), ('R', 'Ŕ'), ('S', 'Ś'), ('U', 'Ú'),
   ('W', 'Ẃ'), ('Y', 'Ý'), ('Z', 'Ź'), ('a', 'á'), ('c', 'ć'), ('e', 'é'), ('g', 'ǵ'),
   ('i', 'í'), ('k', 'ḱ'), ('l', 'ĺ'), ('m', 'ḿ'), ('n', 'ń'), ('o', 'ó'), ('p', 'ṕ'),
   ('r', 'ŕ'), ('s', 'ś'), ('u', 'ú'), ('w', 'ẃ'), ('y', 'ý'), ('z', 'ź'), ('Â', 'Ấ'),
   ('Å', 'Ǻ'), ('Æ', 'Ǽ'), ('Ç', 'Ḉ'), ('Ê', 'Ế'), ('Ï', 'Ḯ'), ('Ô', 'Ố'), ('Õ', 'Ṍ'),
   ('Ø', 'Ǿ'), ('Ü', 'Ǘ'), ('â', 'ấ'), ('å', 'ǻ'), ('æ', 'ǽ'), ('ç', 'ḉ'), ('ê', 'ế'),
   ('ï', 'ḯ'), ('ô', 'ố'), ('õ', 'ṍ'), ('ø', 'ǿ'), ('ü', 'ǘ'), ('Ă', 'Ắ'), ('ă', 'ắ'),
   ('Ē', 'Ḗ'), ('ē', 'ḗ'), ('Ō', 'Ṓ'), ('ō', 'ṓ'), ('Ũ', 'Ṹ'), ('ũ', 'ṹ'), ('Ơ', 'Ớ'),
   ('ơ', 'ớ'), ('Ư', 'Ứ'), ('ư', 'ứ'), ('Α', 'Ά'), ('Ε', 'Έ'), ('Η', 'Ή'), ('Ι', 'Ί'),
   ('Ο', 'Ό'), ('Υ', 'Ύ'), ('Ω', 'Ώ'), ('α', 'ά'), ('ε', 'έ'), ('η', 'ή'), ('ι', 'ί'),
   ('ο', 'ό'), ('υ', 'ύ'), ('ω', 'ώ'), ('ϊ', 'ΐ'), ('ϋ', 'ΰ'), ('Г', 'Ѓ'), ('К', 'Ќ'),
   ('г', 'ѓ'), ('к', 'ќ'), ('ἀ', 'ἄ'), ('ἁ', 'ἅ'), ('Ἀ', 'Ἄ'), ('Ἁ', 'Ἅ'), ('ἐ', 'ἔ'),
   ('ἑ', 'ἕ'), ('Ἐ', 'Ἔ'), ('Ἑ', 'Ἕ'), ('ἠ', 'ἤ'), ('ἡ', 'ἥ'), ('Ἠ', 'Ἤ'), ('Ἡ', 'Ἥ'),
   ('ἰ', 'ἴ'), ('ἱ', 'ἵ'), ('Ἰ', 'Ἴ'), ('Ἱ', 'Ἵ'), ('ὀ', 'ὄ'), ('ὁ', 'ὅ'), ('Ὀ', 'Ὄ'),
   ('Ὁ', 'Ὅ'), ('ὐ', 'ὔ'), ('ὑ', 'ὕ'), ('Ὑ', 'Ὕ'), ('ὠ', 'ὤ'), ('ὡ', 'ὥ'), ('Ὠ', 'Ὤ'),
   ('Ὡ', 'Ὥ'), ('ᾀ', 'ᾄ'), ('ᾁ', 'ᾅ'), ('ᾈ', 'ᾌ'), ('ᾉ', 'ᾍ'), ('ᾐ', 'ᾔ'), ('ᾑ', 'ᾕ'),
   ('ᾘ', 'ᾜ'), ('ᾙ', 'ᾝ'), ('ᾠ', 'ᾤ'), ('ᾡ', 'ᾥ'), ('ᾨ', 'ᾬ'), ('ᾩ', 'ᾭ'), ('ᾳ', 'ᾴ'),
   ('ῃ', 'ῄ'), ('ῳ', 'ῴ')]

def withAcute? (letter : Char) : Option Char := acuteLetters.lookup letter

example : acuteLetters.length = 128 := by decide +kernel

end StanzaDelivery.Text
