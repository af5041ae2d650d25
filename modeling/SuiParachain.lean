import SuiParachain.Signing
import SuiParachain.Readable.Maps
import SuiParachain.Readable.Keys
import SuiParachain.Verifier.AbilityFieldRequirements
