/-!
# Powers

A power with a natural exponent is the one of the core library, also where monoids have powers of
their own. So a power in a definition and one in a statement about it are the same term.
-/

attribute [instance (high)] instPowNat
attribute [default_instance (high + 1)] instPowNat
